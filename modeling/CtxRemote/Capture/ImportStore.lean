import CtxRemote.Capture.Identities
import CtxRemote.Library.Keyed
import CtxRemote.Store.EventWrites
import CtxRemote.Store.SessionSources

/-! What provider imports read and write of a store: sources, sessions with their aliases and edges,
runs, events, file touches and cursors.

A row holds what reading it back gives: times in milliseconds, and JSON columns as values. The
tables of the event search, which no step of an import reads, are left out.
-/

namespace CtxRemote.Capture
open CtxRemote.Library
open CtxRemote.Store
  (Uuid CaptureProvider Json Fidelity SyncMetadata Event EventRow EventTable References StoreError
    AgentType SessionStatus CaptureSourceKind TriggerSource triggerSourcesMatch)

-----------------------------------------------------------------------------------------
-- Rows
-----------------------------------------------------------------------------------------

/-- `SessionEdgeType`. -/
inductive SessionEdgeType where
  | parentChild | delegated | reviewed | spawned | resumedFrom | importedRelated
deriving DecidableEq, Repr

/-- `Confidence`. -/
inductive Confidence where
  | explicit | high | medium | low | unknown
deriving DecidableEq, Repr

/-- `RunType`. -/
inductive RunType where
  | agentTurn | command | toolCall | review | importing | summary
deriving DecidableEq, Repr

/-- `RunStatus`. -/
inductive RunStatus where
  | queued | running | succeeded | failed | cancelled | partial'
deriving DecidableEq, Repr

/-- `FileChangeKind`. -/
inductive FileChangeKind where
  | read | created | modified | deleted | renamed | unknown
deriving DecidableEq, Repr

/-- `CaptureSource`. -/
structure CaptureSource where
  id : Uuid
  kind : CaptureSourceKind
  provider : CaptureProvider
  machineId : String
  processId : Option UInt32
  cwd : Option String
  rawSourcePath : Option String
  sourceFormat : Option String
  sourceRoot : Option String
  sourceIdentity : Option String
  externalSessionId : Option String
  startedAtMs : Int
  endedAtMs : Option Int
  sync : SyncMetadata

/-- What the triggers on provider sessions read of a source. -/
def CaptureSource.triggerSource (source : CaptureSource) : TriggerSource :=
  ⟨source.id, source.rawSourcePath, source.sourceFormat, source.sourceIdentity⟩

/-- `Session`. -/
structure Session where
  id : Uuid
  historyRecordId : Option Uuid
  parentSessionId : Option Uuid
  rootSessionId : Option Uuid
  captureSourceId : Option Uuid
  provider : CaptureProvider
  externalSessionId : Option String
  externalAgentId : Option String
  agentType : AgentType
  roleHint : Option String
  isPrimary : Bool
  status : SessionStatus
  transcriptBlobId : Option Uuid
  startedAtMs : Int
  endedAtMs : Option Int
  createdAtMs : Int
  updatedAtMs : Int
  sync : SyncMetadata

/-- `ORDER BY created_at_ms, id`. -/
def Session.earlier (left right : Session) : Prop :=
  left.createdAtMs < right.createdAtMs
  ∨ (left.createdAtMs = right.createdAtMs ∧ left.id.text ≤ right.id.text)

instance : DecidableRel Session.earlier := fun left right =>
  inferInstanceAs (Decidable (left.createdAtMs < right.createdAtMs
    ∨ (left.createdAtMs = right.createdAtMs ∧ left.id.text ≤ right.id.text)))

/-- `SessionEdge`. -/
structure SessionEdge where
  id : Uuid
  fromSessionId : Uuid
  toSessionId : Uuid
  edgeType : SessionEdgeType
  confidence : Confidence
  sourceId : Option Uuid
  createdAtMs : Int
  updatedAtMs : Int
  sync : SyncMetadata

/-- `Run`. -/
structure Run where
  id : Uuid
  historyRecordId : Option Uuid
  sessionId : Option Uuid
  runType : RunType
  status : RunStatus
  startedAtMs : Int
  endedAtMs : Option Int
  exitCode : Option Int
  cwd : Option String
  commandPreview : Option String
  inputBlobId : Option Uuid
  outputBlobId : Option Uuid
  createdAtMs : Int
  updatedAtMs : Int
  sourceId : Option Uuid
  sync : SyncMetadata

/-- `FileTouched`. -/
structure FileTouched where
  id : Uuid
  historyRecordId : Option Uuid
  runId : Option Uuid
  eventId : Option Uuid
  vcsWorkspaceId : Option Uuid
  path : String
  changeKind : Option FileChangeKind
  oldPath : Option String
  lineCountDelta : Option Int
  confidence : Confidence
  createdAtMs : Int
  updatedAtMs : Int
  sourceId : Option Uuid
  sync : SyncMetadata

/-- `SyncCursor`. -/
structure SyncCursor where
  id : Uuid
  teamId : Option String
  deviceId : String
  stream : String
  cursor : String
  lastSyncedAtMs : Option Int
  createdAtMs : Int
  updatedAtMs : Int

-----------------------------------------------------------------------------------------
-- The store
-----------------------------------------------------------------------------------------

/-- The tables. An alias is the pair of an id and the id it stands for. -/
structure ImportStore where
  historyRecords : List Uuid
  artifacts : List Uuid
  vcsWorkspaces : List Uuid
  captureSources : Keyed CaptureSource (·.id)
  sessions : Keyed Session (·.id)
  sessionAliases : List (Uuid × Uuid)
  sessionEdges : Keyed SessionEdge (·.id)
  runs : Keyed Run (·.id)
  events : EventTable
  eventAliases : List (Uuid × Uuid)
  filesTouched : Keyed FileTouched (·.id)
  syncCursors : List SyncCursor

namespace ImportStore

/-- The store without rows. -/
def empty : ImportStore where
  historyRecords := []
  artifacts := []
  vcsWorkspaces := []
  captureSources := Keyed.empty
  sessions := Keyed.empty
  sessionAliases := []
  sessionEdges := Keyed.empty
  runs := Keyed.empty
  events := Table.empty
  eventAliases := []
  filesTouched := Keyed.empty
  syncCursors := []

/-- The part of the store that event writes read and change. -/
def database (store : ImportStore) : Store.Database where
  references :=
    { historyRecords := store.historyRecords
      captureSources := store.captureSources.rows.map (·.id)
      artifacts := store.artifacts
      sessions := store.sessions.rows.map fun row => ⟨row.id, row.historyRecordId⟩
      runs := store.runs.rows.map fun row => ⟨row.id, row.historyRecordId, row.sessionId⟩ }
  events := store.events
  projection := []
  searchableItems := none

-----------------------------------------------------------------------------------------
-- Reads
-----------------------------------------------------------------------------------------

/-- `COALESCE((SELECT … FROM … WHERE alias_id = ?1), ?1)`. -/
def resolveAlias (aliases : List (Uuid × Uuid)) (id : Uuid) : Uuid :=
  (aliases.lookup id).getD id

/-- `Store::get_session`. -/
def getSession (store : ImportStore) (id : Uuid) : Option Session :=
  store.sessions.find? (resolveAlias store.sessionAliases id)

/-- `Store::session_by_capture_source_and_external_session`. -/
def sessionByCaptureSourceAndExternalSession (store : ImportStore) (sourceId : Uuid)
    (provider : CaptureProvider) (externalSessionId : String)
    : Option Session :=
  ((store.sessions.rows.filter fun row =>
    row.captureSourceId = some sourceId && row.provider = provider
      && row.externalSessionId = some externalSessionId).insertionSort Session.earlier).head?

/-- `Store::get_event`. -/
def getEvent (store : ImportStore) (id : Uuid) : Option EventRow :=
  store.database.eventById (resolveAlias store.eventAliases id)

/-- `Store::event_alias_target_id`. -/
def eventAliasTargetId (store : ImportStore) (aliasId : Uuid) : Option Uuid :=
  store.eventAliases.lookup aliasId

/-- `Store::event_id_by_seq`. -/
def eventIdBySeq (store : ImportStore) (seq : UInt64) : Option Uuid :=
  (store.events.rows.find? fun row => row.seq = Store.asI64 seq).map (·.id)

/-- `Store::events_for_session`; a stored `seq` is unique. -/
def eventsForSession (store : ImportStore) (sessionId : Uuid) : List EventRow :=
  (store.events.rows.filter fun row => row.sessionId = some sessionId).insertionSort
    fun left right => left.seq ≤ right.seq

-----------------------------------------------------------------------------------------
-- Writes
-----------------------------------------------------------------------------------------

/-- `Store::upsert_capture_source`. -/
def upsertCaptureSource (store : ImportStore) (source : CaptureSource) : ImportStore :=
  { store with captureSources := store.captureSources.put source }

/-- The triggers on provider sessions abort a write: another session has the external id for a
source that matches. The unique index refuses nothing else.
-/
def duplicatesSession (store : ImportStore) (incoming : Session) : Bool :=
  match incoming.captureSourceId.bind store.captureSources.find? with
  | none => false
  | some incomingSource =>
      incoming.externalSessionId.isSome && incoming.sync.deletedAt.isNone
      && store.sessions.rows.any fun existing =>
        existing.id ≠ incoming.id && existing.provider = incoming.provider
        && existing.externalSessionId = incoming.externalSessionId
        && existing.sync.deletedAt.isNone
        && (existing.captureSourceId.bind store.captureSources.find?).any fun source =>
          triggerSourcesMatch source.triggerSource incomingSource.triggerSource

/-- The foreign keys of a session. It may refer to itself. -/
def sessionReferencesHold (store : ImportStore) (session : Session) : Bool :=
  let held (id : Uuid) : Bool := id = session.id || store.sessions.holds id
  session.historyRecordId.all (· ∈ store.historyRecords) && session.parentSessionId.all held
  && session.rootSessionId.all held && session.captureSourceId.all store.captureSources.holds
  && session.transcriptBlobId.all (· ∈ store.artifacts)

/-- The row that `upsert_session` leaves: the time of creation stays. -/
def upsertedSession (store : ImportStore) (session : Session) : Session :=
  { session with
    createdAtMs :=
      ((store.sessions.find? session.id).map (·.createdAtMs)).getD session.createdAtMs }

/-- `Store::upsert_session`. -/
def upsertSession (store : ImportStore) (session : Session) : Except StoreError ImportStore :=
  if store.sessionReferencesHold session && !store.duplicatesSession session
  then .ok { store with sessions := store.sessions.put (store.upsertedSession session) }
  else .error .sql

/-- `Store::upsert_session_edge`. -/
def upsertSessionEdge (store : ImportStore) (edge : SessionEdge) : Except StoreError ImportStore :=
  let createdAtMs := ((store.sessionEdges.find? edge.id).map (·.createdAtMs)).getD edge.createdAtMs
  if store.sessions.holds edge.fromSessionId && store.sessions.holds edge.toSessionId
      && edge.sourceId.all store.captureSources.holds
  then
    .ok
      { store with
        sessionEdges := store.sessionEdges.put { edge with createdAtMs := createdAtMs } }
  else .error .sql

/-- The foreign keys of a run. -/
def runReferencesHold (store : ImportStore) (run : Run) : Bool :=
  run.historyRecordId.all (· ∈ store.historyRecords) && run.sessionId.all store.sessions.holds
  && run.inputBlobId.all (· ∈ store.artifacts) && run.outputBlobId.all (· ∈ store.artifacts)
  && run.sourceId.all store.captureSources.holds

/-- The row that `upsert_run` leaves: the time of creation stays. -/
def upsertedRun (store : ImportStore) (run : Run) : Run :=
  { run with createdAtMs := ((store.runs.find? run.id).map (·.createdAtMs)).getD run.createdAtMs }

/-- `Store::upsert_run`. -/
def upsertRun (store : ImportStore) (run : Run) : Except StoreError ImportStore :=
  if store.runReferencesHold run
  then .ok { store with runs := store.runs.put (store.upsertedRun run) }
  else .error .sql

/-- `Store::insert_run_if_absent`. -/
def insertRunIfAbsent (store : ImportStore) (run : Run) : Except StoreError ImportStore :=
  if store.runs.holds run.id then .ok store
  else if store.runReferencesHold run then .ok { store with runs := store.runs.put run }
  else .error .sql

/-- `Store::upsert_event`. -/
def upsertEvent (externals : Store.Externals) (store : ImportStore) (event : Event)
    : Except StoreError ImportStore :=
  (Store.upsertEvent externals store.database event).map fun (_, next) =>
    { store with events := next.events }

/-- `Store::insert_event_if_absent`. -/
def insertEventIfAbsent (externals : Store.Externals) (store : ImportStore) (event : Event)
    : Except StoreError (Bool × ImportStore) :=
  (Store.insertEventIfAbsent externals store.database event).map fun (inserted, next) =>
    (inserted, { store with events := next.events })

/-- `Store::upsert_file_touched`. -/
def upsertFileTouched (store : ImportStore) (file : FileTouched) : Except StoreError ImportStore :=
  let createdAtMs := ((store.filesTouched.find? file.id).map (·.createdAtMs)).getD file.createdAtMs
  if file.historyRecordId.all (· ∈ store.historyRecords) && file.runId.all store.runs.holds
      && file.eventId.all (fun id => (store.database.eventById id).isSome)
      && file.vcsWorkspaceId.all (· ∈ store.vcsWorkspaces)
      && file.sourceId.all store.captureSources.holds
  then
    .ok
      { store with
        filesTouched := store.filesTouched.put { file with createdAtMs := createdAtMs } }
  else .error .sql

/-- `Store::upsert_sync_cursor`. -/
def upsertSyncCursor (store : ImportStore) (cursor : SyncCursor) : Except StoreError ImportStore :=
  let named (held : SyncCursor) : Bool :=
    held.teamId = cursor.teamId && held.deviceId = cursor.deviceId && held.stream = cursor.stream
  if store.syncCursors.any named then
    .ok
      { store with
        syncCursors := store.syncCursors.map fun held =>
          if named held then
            { held with
              cursor := cursor.cursor
              lastSyncedAtMs := cursor.lastSyncedAtMs
              updatedAtMs := cursor.updatedAtMs }
          else held }
  else if store.syncCursors.any (·.id = cursor.id) then .error .sql
  else .ok { store with syncCursors := store.syncCursors ++ [cursor] }

end ImportStore

end CtxRemote.Capture
