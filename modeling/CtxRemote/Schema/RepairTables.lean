import CtxRemote.Store.SessionSources

/-! The tables that the repair of provider sessions reads and changes when a store is migrated to
schema version 47, with their foreign keys.
-/

namespace CtxRemote.Schema
open CtxRemote.Library
open CtxRemote.Store
  (Uuid EventRow EventTable SearchRow SearchTable References Fidelity StoreError AgentType
    SessionStatus CaptureSourceKind TriggerSource)
open CtxRemote.Turso (Visibility SyncState)

-----------------------------------------------------------------------------------------
-- Rows
-----------------------------------------------------------------------------------------

/-- What the repair and the triggers read of a row of `capture_sources`. -/
structure CaptureSourceRow where
  id : Uuid
  kind : CaptureSourceKind
  rawSourcePath : Option String
  sourceFormat : Option String
  sourceIdentity : Option String
  metadataJson : String
deriving DecidableEq

/-- What the triggers on provider sessions read of a row. -/
def CaptureSourceRow.triggerSource (row : CaptureSourceRow) : TriggerSource :=
  ⟨row.id, row.rawSourcePath, row.sourceFormat, row.sourceIdentity⟩

/-- A row of `sessions`. -/
structure SessionRow where
  id : Uuid
  historyRecordId : Option Uuid
  parentSessionId : Option Uuid
  rootSessionId : Option Uuid
  captureSourceId : Option Uuid
  provider : String
  externalSessionId : Option String
  externalAgentId : Option String
  agentType : AgentType
  roleHint : Option String
  isPrimary : Bool
  status : SessionStatus
  fidelity : Fidelity
  transcriptBlobId : Option Uuid
  startedAtMs : Int
  endedAtMs : Option Int
  createdAtMs : Int
  updatedAtMs : Int
  visibility : Visibility
  syncState : SyncState
  syncVersion : Int
  deletedAtMs : Option Int
  metadataJson : String
deriving DecidableEq

/-- A row of `session_aliases` or `event_aliases`. -/
structure AliasRow where
  aliasId : Uuid
  targetId : Uuid
  reason : String
  createdAtMs : Int
deriving DecidableEq

/-- What the repair reads and changes of a row of `session_edges`. -/
structure SessionEdgeRow where
  id : Uuid
  fromSessionId : Uuid
  toSessionId : Uuid
deriving DecidableEq

/-- What the repair and the projection read and change of a row of `runs`. -/
structure RunRow where
  id : Uuid
  historyRecordId : Option Uuid
  sessionId : Option Uuid
deriving DecidableEq

/-- What the repair reads and changes of a row of `summaries`. -/
structure SummaryRow where
  id : Uuid
  sessionId : Option Uuid
deriving DecidableEq

/-- What the repair reads and changes of a row of `files_touched`. -/
structure FileTouchedRow where
  id : Uuid
  runId : Option Uuid
  eventId : Option Uuid
  path : String
deriving DecidableEq

/-- The target types of a link. -/
inductive LinkTargetType where
  | session | run | event | vcsWorkspace | vcsChange | artifact
deriving DecidableEq, Repr

/-- A row of `history_record_links`. -/
structure HistoryRecordLinkRow where
  id : Uuid
  historyRecordId : Uuid
  targetType : LinkTargetType
  targetId : Uuid
  linkType : String
deriving DecidableEq

-----------------------------------------------------------------------------------------
-- The database
-----------------------------------------------------------------------------------------

abbrev SessionTable := Table SessionRow fun left right => left.id = right.id

/-- The tables, with those of the event search projection in one list. -/
structure Database where
  captureSources : List CaptureSourceRow
  sessions : SessionTable
  sessionAliases : List AliasRow
  sessionEdges : List SessionEdgeRow
  runs : List RunRow
  events : EventTable
  eventAliases : List AliasRow
  projection : List SearchRow
  historyRecordLinks : List HistoryRecordLinkRow
  summaries : List SummaryRow
  filesTouched : List FileTouchedRow
  searchableItems : Option Int

namespace Database

def sessionIds (db : Database) : List Uuid := db.sessions.rows.map (·.id)

def eventIds (db : Database) : List Uuid := db.events.rows.map (·.id)

/-- `JOIN capture_sources cs ON cs.id = s.capture_source_id`. -/
def sourceOf (db : Database) (session : SessionRow) : Option CaptureSourceRow :=
  session.captureSourceId.bind fun id => db.captureSources.find? (·.id = id)

/-- `Store::get_session`: an alias goes before a session with the same id. -/
def getSession (db : Database) (id : Uuid) : Option SessionRow :=
  let target := ((db.sessionAliases.find? (·.aliasId = id)).map (·.targetId)).getD id
  db.sessions.rows.find? (·.id = target)

/-- `Store::get_event`: an alias goes before an event with the same id. -/
def getEvent (db : Database) (id : Uuid) : Option EventRow :=
  let target := ((db.eventAliases.find? (·.aliasId = id)).map (·.targetId)).getD id
  db.events.rows.find? (·.id = target)

/-- The foreign keys to `sessions`, `runs`, `events` and `capture_sources` in these tables. -/
def foreignKeys (db : Database) : Bool :=
  let session (id : Uuid) : Bool := id ∈ db.sessionIds
  let event (id : Uuid) : Bool := id ∈ db.eventIds
  let run (id : Uuid) : Bool := id ∈ db.runs.map (·.id)
  let source (id : Uuid) : Bool := id ∈ db.captureSources.map (·.id)
  (db.sessions.rows.all fun row =>
    row.parentSessionId.all session && row.rootSessionId.all session
      && row.captureSourceId.all source)
  && (db.sessionAliases.all fun row => session row.targetId)
  && (db.sessionEdges.all fun row => session row.fromSessionId && session row.toSessionId)
  && (db.runs.all fun row => row.sessionId.all session)
  && (db.events.rows.all fun row =>
    row.sessionId.all session && row.runId.all run && row.captureSourceId.all source)
  && (db.eventAliases.all fun row => event row.targetId)
  && (db.projection.all fun row =>
    row.table ≠ .eventSearchLookup || (event row.eventId && row.sessionId.all session))
  && (db.summaries.all fun row => row.sessionId.all session)
  && (db.filesTouched.all fun row => row.runId.all run && row.eventId.all event)

/-- The unique index of `history_record_links`. -/
def uniqueLinks (db : Database) : Bool :=
  decide ((db.historyRecordLinks.map fun row =>
    (row.historyRecordId, row.targetType, row.targetId, row.linkType)).Nodup)

/-- The constraints that the statements of the repair could break. -/
def constraints (db : Database) : Bool := db.foreignKeys && db.uniqueLinks

/-- Each alias, edge, run, event and file touch refers to rows that exist. -/
structure RefersToRows (db : Database) : Prop where
  sessionAliases : ∀ row ∈ db.sessionAliases, row.targetId ∈ db.sessionIds
  eventAliases : ∀ row ∈ db.eventAliases, row.targetId ∈ db.eventIds
  sessionEdges
    : ∀ row ∈ db.sessionEdges, row.fromSessionId ∈ db.sessionIds ∧ row.toSessionId ∈ db.sessionIds
  runs : ∀ row ∈ db.runs, ∀ id, row.sessionId = some id → id ∈ db.sessionIds
  events
    : ∀ row ∈ db.events.rows,
        (∀ id, row.sessionId = some id → id ∈ db.sessionIds)
        ∧ ∀ id, row.runId = some id → id ∈ db.runs.map (·.id)
  filesTouched
    : ∀ row ∈ db.filesTouched,
        (∀ id, row.runId = some id → id ∈ db.runs.map (·.id))
        ∧ ∀ id, row.eventId = some id → id ∈ db.eventIds

theorem refersToRows_of_foreignKeys {db : Database} (held : db.foreignKeys = true)
    : db.RefersToRows := by
  simp only [foreignKeys, Bool.and_eq_true, List.all_eq_true, decide_eq_true_eq,
    Option.all_eq_true] at held
  obtain ⟨⟨⟨⟨⟨⟨⟨⟨sessions, sessionAliases⟩, edges⟩, runs⟩, events⟩, eventAliases⟩, _⟩, _⟩, touched⟩ :=
    held
  exact {
    sessionAliases := sessionAliases
    eventAliases := eventAliases
    sessionEdges := edges
    runs := runs
    events := fun row member => (events row member).1
    filesTouched := touched }

/-- The part of the database that the event search projection reads. -/
def store (db : Database) : Store.Database where
  references :=
    { historyRecords := []
      captureSources := db.captureSources.map (·.id)
      artifacts := []
      sessions := db.sessions.rows.map fun row => ⟨row.id, row.historyRecordId⟩
      runs := db.runs.map fun row => ⟨row.id, row.historyRecordId, row.sessionId⟩ }
  events := db.events
  projection := db.projection
  searchableItems := db.searchableItems

-----------------------------------------------------------------------------------------
-- Statements
-----------------------------------------------------------------------------------------

/-- Runs statements one after another; one that breaks a constraint fails. -/
def execute (db : Database) (statements : List (Database → Database)) : Except StoreError Database :=
  statements.foldlM
    (fun db statement => if (statement db).constraints then .ok (statement db) else .error .sql) db

/-- Statements that all succeed had their effects in order, and the last one left the constraints
in place. By induction on the statements.
-/
theorem execute_eq_ok {db next : Database} {statements : List (Database → Database)}
    (done : db.execute statements = .ok next)
    : next = statements.foldl (fun db statement => statement db) db
      ∧ (db.constraints = true → next.constraints = true) := by
  induction statements generalizing db with
  | nil =>
      cases done
      exact ⟨rfl, id⟩
  | cons statement rest ih =>
      unfold execute at done
      rw [List.foldlM_cons] at done
      by_cases kept : (statement db).constraints = true
      · rw [if_pos kept] at done
        obtain ⟨effect, holds⟩ := ih done
        exact ⟨effect, fun _ => holds kept⟩
      · rw [if_neg kept] at done
        cases done

/-- The last of one or more statements checks the constraints. -/
theorem constraints_of_execute {db next : Database} {statement : Database → Database}
    {rest : List (Database → Database)} (done : db.execute (statement :: rest) = .ok next)
    : next.constraints = true := by
  unfold execute at done
  rw [List.foldlM_cons] at done
  by_cases kept : (statement db).constraints = true
  · rw [if_pos kept] at done
    exact (execute_eq_ok done).2 kept
  · rw [if_neg kept] at done
    cases done

end Database

end CtxRemote.Schema
