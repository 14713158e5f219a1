import Mathlib.Data.Prod.Lex
import Mathlib.Data.String.Basic
import CtxRemote.Library.Components
import CtxRemote.Schema.RepairTables

/-! The repair of duplicate provider sessions in the migration to schema version 47. Live sessions of
one provider and external id that share a source are merged into the oldest of them; events with
one identity are merged, and the removed ids become aliases.
-/

namespace CtxRemote.Schema
open CtxRemote.Library
open CtxRemote.Store (Uuid EventRow EventTable SearchRow SearchTable StoreError Externals
  parseProviderEventDedupeKey)

-----------------------------------------------------------------------------------------
-- Values of columns
-----------------------------------------------------------------------------------------

/-- A value of SQLite. -/
inductive SqlValue where
  | null
  | integer (value : Int)
  | real
  | text (value : String)
  | blob
deriving DecidableEq

/-- `row.get::<_, Option<String>>`. -/
def SqlValue.optionalText : SqlValue → Except StoreError (Option String)
  | null => .ok none
  | text value => .ok (some value)
  | _ => .error .sql

/-- `row.get::<_, Option<i64>>`. -/
def SqlValue.optionalInteger : SqlValue → Except StoreError (Option Int)
  | null => .ok none
  | integer value => .ok (some value)
  | _ => .error .sql

/-- SQLite's `json_extract` on a text and a path, which this model leaves open; it fails on malformed
JSON.
-/
abbrev JsonExtract := String → String → Except StoreError SqlValue

-----------------------------------------------------------------------------------------
-- Candidates
-----------------------------------------------------------------------------------------

/-- `SessionCandidate`. -/
structure SessionCandidate where
  id : Uuid
  sourceId : Uuid
  rawSourcePath : Option String
  sourceFormat : Option String
  sourceIdentity : Option String
  createdAtMs : Int
  updatedAtMs : Int
deriving DecidableEq

/-- `EventCandidate`. -/
structure EventCandidate where
  id : Uuid
  seq : Int
  dedupeKey : Option String
  providerIndex : Option UInt64
  providerHash : Option String
deriving DecidableEq

/-- A present text that is not empty. -/
def nonempty (value : Option String) : Bool := value.any (· ≠ "")

/-- The `WHERE` clause of the query of `repair_duplicate_provider_sessions`, on a session with an
external id.
-/
def isCandidate (session : SessionRow) (source : CaptureSourceRow) : Bool :=
  session.deletedAtMs.isNone && source.kind = .providerImport
  && (nonempty source.sourceIdentity || nonempty source.rawSourcePath)

/-- `COALESCE(cs.source_format, json_extract(cs.metadata_json, '$.source_format'))`. -/
def coalescedSourceFormat (jsonExtract : JsonExtract) (source : CaptureSourceRow)
    : Except StoreError (Option String) :=
  match source.sourceFormat with
  | some format => .ok (some format)
  | none => do (← jsonExtract source.metadataJson "$.source_format").optionalText

/-- The row of the query for a session: its group and the candidate. -/
def sessionCandidate (jsonExtract : JsonExtract) (db : Database) (session : SessionRow)
    : Except StoreError (Option ((String × String) × SessionCandidate)) :=
  match session.externalSessionId, db.sourceOf session with
  | some externalSessionId, some source =>
      if !isCandidate session source then .ok none
      else do
        let sourceFormat ← coalescedSourceFormat jsonExtract source
        return some
          ((session.provider, externalSessionId),
            { id := session.id
              sourceId := source.id
              rawSourcePath := source.rawSourcePath
              sourceFormat := sourceFormat
              sourceIdentity := source.sourceIdentity
              createdAtMs := session.createdAtMs
              updatedAtMs := session.updatedAtMs })
  | _, _ => .ok none

/-- `ORDER BY s.created_at_ms, s.id`. -/
def SessionRow.before (left right : SessionRow) : Prop :=
  left.createdAtMs < right.createdAtMs
  ∨ (left.createdAtMs = right.createdAtMs ∧ left.id.text ≤ right.id.text)

instance : DecidableRel SessionRow.before := fun left right =>
  inferInstanceAs (Decidable (left.createdAtMs < right.createdAtMs
    ∨ (left.createdAtMs = right.createdAtMs ∧ left.id.text ≤ right.id.text)))

/-- The rows of the query of `repair_duplicate_provider_sessions`. -/
def sessionCandidates (jsonExtract : JsonExtract) (db : Database)
    : Except StoreError (List ((String × String) × SessionCandidate)) := do
  let rows ←
    (db.sessions.rows.insertionSort SessionRow.before).mapM (sessionCandidate jsonExtract db)
  return rows.reduceOption

/-- The groups of candidates, by provider and external session id. -/
def sessionGroups (rows : List ((String × String) × SessionCandidate))
    : List (List SessionCandidate) :=
  let keys := (rows.map (toLex ·.1)).dedup.insertionSort (· ≤ ·)
  keys.map fun key => (rows.filter fun row => toLex row.1 = key).map (·.2)

-----------------------------------------------------------------------------------------
-- Components
-----------------------------------------------------------------------------------------

/-- `same_nonempty_value`. -/
def sameNonemptyValue (left right : Option String) : Bool := nonempty left && left = right

/-- `sessions_share_source`. -/
def sessionsShareSource (left right : SessionCandidate) : Bool :=
  sameNonemptyValue left.sourceIdentity right.sourceIdentity
  || sameNonemptyValue left.rawSourcePath right.rawSourcePath

/-- `equivalent_session_components`. -/
def equivalentSessionComponents (candidates : List SessionCandidate)
    : List (List SessionCandidate) :=
  components sessionsShareSource candidates

/-- `source_formats_are_compatible`. -/
def sourceFormatsAreCompatible (candidates : List SessionCandidate) : Bool :=
  (candidates.filterMap (·.sourceFormat)).dedup.length ≤ 1

/-- The components that the loop of `repair_duplicate_provider_sessions` does not skip. -/
def mergedComponents (rows : List ((String × String) × SessionCandidate))
    : List (List SessionCandidate) :=
  ((sessionGroups rows).flatMap equivalentSessionComponents).filter fun component =>
    2 ≤ component.length && sourceFormatsAreCompatible component

/-- The first least element of a list under a key. -/
def minByKey {Item Key : Type} [LinearOrder Key] (key : Item → Key) : Item → List Item → Item :=
  List.foldl fun best item => if key item < key best then item else best

/-- The last greatest element of a list under a key. -/
def maxByKey {Item Key : Type} [LinearOrder Key] (key : Item → Key) : Item → List Item → Item :=
  List.foldl fun best item => if key item < key best then best else item

/-- `canonical`. -/
def canonicalSession : SessionCandidate → List SessionCandidate → SessionCandidate :=
  minByKey fun candidate => toLex (candidate.createdAtMs, candidate.id.text)

/-- `preferred_source`. -/
def preferredSource : SessionCandidate → List SessionCandidate → SessionCandidate :=
  maxByKey fun candidate =>
    toLex (candidate.sourceIdentity.isSome,
      toLex (candidate.sourceFormat.isSome, toLex (candidate.updatedAtMs, candidate.createdAtMs)))

-----------------------------------------------------------------------------------------
-- Redirected references
-----------------------------------------------------------------------------------------

/-- `SET column = ?1 WHERE column = ?2`, on one value. -/
def redirect (canonical duplicate : Uuid) (value : Option Uuid) : Option Uuid :=
  if value = some duplicate then some canonical else value

/-- `redirect_link_target`. -/
def redirectLinkTarget (targetType : LinkTargetType) (duplicate canonical : Uuid)
    : List (Database → Database) :=
  [ fun db =>
      { db with
        historyRecordLinks := db.historyRecordLinks.filter fun row =>
          !(row.targetType = targetType && row.targetId = duplicate
            && db.historyRecordLinks.any fun existing =>
              existing.historyRecordId = row.historyRecordId
              && existing.targetType = row.targetType && existing.targetId = canonical
              && existing.linkType = row.linkType) },
    fun db =>
      { db with
        historyRecordLinks := db.historyRecordLinks.map fun row =>
          if row.targetType = targetType ∧ row.targetId = duplicate then
            { row with targetId := canonical }
          else row } ]

/-- `INSERT OR REPLACE` of an alias. -/
def replaceAlias (aliases : List AliasRow) (aliasId targetId : Uuid) (now : Int) : List AliasRow :=
  aliases.filter (fun row => row.aliasId ≠ aliasId)
    ++ [⟨aliasId, targetId, "provider_source_identity_repair", now⟩]

/-- An `UPDATE` of `sessions` that leaves the ids. -/
def Database.updateSessions (db : Database) (change : SessionRow → SessionRow)
    (leaves : ∀ row, (change row).id = row.id)
    : Database :=
  { db with
    sessions := db.sessions.update change fun left right same => by
      rwa [leaves, leaves] at same }

/-- An `UPDATE` of `events` that sets the session of some events. -/
def Database.setEventSession (db : Database) (condition : EventRow → Bool) (sessionId : Uuid)
    : Database :=
  { db with
    events := db.events.update
      (fun row => if condition row then { row with sessionId := some sessionId } else row)
      fun left right clash => by
        revert clash
        unfold Store.EventRow.Clash
        split <;> split <;> exact id }

-----------------------------------------------------------------------------------------
-- Merging events
-----------------------------------------------------------------------------------------

/-- The columns that the query of `merge_group_events` reads of an event. -/
def eventCandidate (jsonExtract : JsonExtract) (row : EventRow)
    : Except StoreError EventCandidate := do
  let index ← (← jsonExtract row.metadataJson "$.provider_event_index").optionalInteger
  let hash ← (← jsonExtract row.metadataJson "$.provider_event_hash").optionalText
  return {
    id := row.id
    seq := row.seq
    dedupeKey := row.dedupeKey
    providerIndex := index.bind fun value =>
      if value < 0 then none else some (UInt64.ofNat value.toNat)
    providerHash := hash }

/-- `event_identity`. -/
def eventIdentity (event : EventCandidate) : Option (UInt64 × String) :=
  match event.providerIndex, event.providerHash with
  | some index, some hash =>
      if hash ≠ "" then some (index, hash)
      else
        (event.dedupeKey.bind parseProviderEventDedupeKey).map fun parsed =>
          (parsed.providerIndex, parsed.payloadHash)
  | _, _ =>
      (event.dedupeKey.bind parseProviderEventDedupeKey).map fun parsed =>
        (parsed.providerIndex, parsed.payloadHash)

/-- The order of `(seq, id)`. -/
def EventCandidate.before (left right : EventCandidate) : Prop :=
  left.seq < right.seq ∨ (left.seq = right.seq ∧ left.id.text ≤ right.id.text)

instance : DecidableRel EventCandidate.before := fun left right =>
  inferInstanceAs (Decidable (left.seq < right.seq
    ∨ (left.seq = right.seq ∧ left.id.text ≤ right.id.text)))

/-- The events of the sessions of a component, in the order in which they are merged. -/
def groupEvents (jsonExtract : JsonExtract) (db : Database) (component : List SessionCandidate)
    : Except StoreError (List EventCandidate) := do
  let events ← component.mapM fun session => do
    let rows ← (db.events.rows.filter fun row => row.sessionId = some session.id).mapM
      (eventCandidate jsonExtract)
    return rows.insertionSort EventCandidate.before
  return events.flatten.insertionSort EventCandidate.before

/-- `merge_event`. -/
def mergeEvent (duplicate canonical : Uuid) (now : Int) : List (Database → Database) :=
  redirectLinkTarget .event duplicate canonical
  ++ [ fun db =>
        { db with
          filesTouched := db.filesTouched.map fun row =>
            { row with eventId := redirect canonical duplicate row.eventId } },
      fun db =>
        { db with eventAliases := replaceAlias db.eventAliases duplicate canonical now },
      fun db =>
        { db with
          projection := db.projection.filter fun row =>
            !(row.table = .eventSearchLookup && row.eventId = duplicate) },
      fun db => { db with events := db.events.keep fun row => row.id ≠ duplicate } ]

/-- The statements for an event that stays. -/
def moveEvent (event session : Uuid) : List (Database → Database) :=
  [ fun db => db.setEventSession (fun row => row.id = event) session,
    fun db =>
      { db with
        projection := db.projection.map fun row =>
          if row.table = .eventSearchLookup ∧ row.eventId = event then
            { row with sessionId := some session }
          else row } ]

/-- `canonical_events`, newest entry first. -/
abbrev CanonicalEvents := List ((UInt64 × String) × Uuid)

/-- The loop body of `merge_group_events`. -/
def mergeGroupEvent (session : Uuid) (now : Int) (state : Database × CanonicalEvents)
    (event : EventCandidate)
    : Except StoreError (Database × CanonicalEvents) := do
  let (db, canonicalEvents) := state
  let identity := eventIdentity event
  match identity.bind fun key => canonicalEvents.lookup key with
  | some existing => return (← db.execute (mergeEvent event.id existing now), canonicalEvents)
  | none =>
      let canonicalEvents :=
        match identity with
        | some identity => (identity, event.id) :: canonicalEvents
        | none => canonicalEvents
      return (← db.execute (moveEvent event.id session), canonicalEvents)

/-- `merge_group_events`, with the ids of the affected events. -/
def mergeGroupEvents (jsonExtract : JsonExtract) (now : Int) (db : Database) (session : Uuid)
    (component : List SessionCandidate)
    : Except StoreError (Database × List Uuid) := do
  let events ← groupEvents jsonExtract db component
  let (db, _) ← events.foldlM (mergeGroupEvent session now) (db, [])
  return (db, events.map (·.id))

-----------------------------------------------------------------------------------------
-- Merging sessions
-----------------------------------------------------------------------------------------

/-- The row that `merge_canonical_session_state` leaves for the canonical session. -/
def mergedSession (row preferred : SessionRow) : SessionRow :=
  { row with
    historyRecordId := preferred.historyRecordId.or row.historyRecordId
    parentSessionId := preferred.parentSessionId.or row.parentSessionId
    rootSessionId := preferred.rootSessionId.or row.rootSessionId
    externalAgentId := preferred.externalAgentId.or row.externalAgentId
    agentType := preferred.agentType
    roleHint := preferred.roleHint.or row.roleHint
    isPrimary := preferred.isPrimary
    status := preferred.status
    fidelity := preferred.fidelity
    transcriptBlobId := preferred.transcriptBlobId.or row.transcriptBlobId
    startedAtMs := min row.startedAtMs preferred.startedAtMs
    endedAtMs :=
      match row.endedAtMs, preferred.endedAtMs with
      | some ended, some other => some (max ended other)
      | ended, other => ended.or other
    updatedAtMs := max row.updatedAtMs preferred.updatedAtMs
    visibility := preferred.visibility
    syncState := preferred.syncState
    syncVersion := max row.syncVersion preferred.syncVersion
    metadataJson := preferred.metadataJson }

/-- `merge_canonical_session_state`. Without a preferred row, the columns that may not be null would
be.
-/
def mergeCanonicalSessionState (db : Database) (canonical preferred : Uuid)
    : Except StoreError Database :=
  match db.sessions.rows.find? (·.id = preferred) with
  | none => .error .sql
  | some preferred =>
      db.execute
        [ fun db => db.updateSessions
            (fun row => if row.id = canonical then mergedSession row preferred else row)
            fun row => by split <;> rfl ]

/-- The statements for one duplicate of a canonical session. -/
def mergeDuplicate (canonical duplicate : Uuid) (now : Int) : List (Database → Database) :=
  redirectLinkTarget .session duplicate canonical
  ++ [ fun db => db.updateSessions
        (fun row => { row with parentSessionId := redirect canonical duplicate row.parentSessionId })
        fun _ => rfl,
      fun db => db.updateSessions
        (fun row => { row with rootSessionId := redirect canonical duplicate row.rootSessionId })
        fun _ => rfl,
      fun db =>
        { db with
          sessionEdges := db.sessionEdges.map fun row =>
            if row.fromSessionId = duplicate then { row with fromSessionId := canonical } else row },
      fun db =>
        { db with
          sessionEdges := db.sessionEdges.map fun row =>
            if row.toSessionId = duplicate then { row with toSessionId := canonical } else row },
      fun db =>
        { db with
          runs := db.runs.map fun row =>
            { row with sessionId := redirect canonical duplicate row.sessionId } },
      fun db =>
        { db with
          summaries := db.summaries.map fun row =>
            { row with sessionId := redirect canonical duplicate row.sessionId } },
      fun db =>
        { db with
          projection := db.projection.map fun row =>
            if row.table = .eventSearchLookup then
              { row with sessionId := redirect canonical duplicate row.sessionId }
            else row },
      fun db =>
        { db with sessionAliases := replaceAlias db.sessionAliases duplicate canonical now },
      fun db => { db with sessions := db.sessions.keep fun row => row.id ≠ duplicate } ]

/-- The last statement of `merge_session_group`. -/
def setCaptureSource (session source : Uuid) (db : Database) : Database :=
  db.updateSessions
    (fun row => if row.id = session then { row with captureSourceId := some source } else row)
    fun row => by split <;> rfl

/-- `merge_session_group`, with the ids of the affected events so far. A component has a session. -/
def mergeSessionGroup (jsonExtract : JsonExtract) (now : Int) (state : Database × List Uuid)
    (component : List SessionCandidate)
    : Except StoreError (Database × List Uuid) :=
  match component with
  | [] => .ok state
  | first :: rest => do
      let canonical := canonicalSession first rest
      let preferred := preferredSource first rest
      let db ← mergeCanonicalSessionState state.1 canonical.id preferred.id
      let (db, affected) ← mergeGroupEvents jsonExtract now db canonical.id (first :: rest)
      let duplicates := (first :: rest).filter fun candidate => candidate.id ≠ canonical.id
      let db ← db.execute (duplicates.flatMap fun duplicate =>
        mergeDuplicate canonical.id duplicate.id now)
      let db ← db.execute [setCaptureSource canonical.id preferred.sourceId]
      return (db, state.2 ++ affected)

/-- `repair_duplicate_provider_sessions`. -/
def repairDuplicateProviderSessions (jsonExtract : JsonExtract) (now : Int) (db : Database)
    : Except StoreError (Database × List Uuid) := do
  let rows ← sessionCandidates jsonExtract db
  (mergedComponents rows).foldlM (mergeSessionGroup jsonExtract now) (db, [])

-----------------------------------------------------------------------------------------
-- The migration
-----------------------------------------------------------------------------------------

/-- `refresh_event_search_projection_for_event_ids`. -/
def refreshEventSearchProjection (externals : Externals) (db : Database) (affected : List Uuid)
    : Except StoreError Database := do
  let ids := affected.dedup.insertionSort fun left right => left.text ≤ right.text
  let db := { db with projection := db.projection.filter fun row => row.eventId ∉ ids }
  let rows := ids.filterMap fun id => db.events.rows.find? (·.id = id)
  let inserted ← rows.mapM fun row =>
    match Store.rebuiltSearchRows externals db.store.references row with
    | none => .error .json
    | some rows => .ok rows
  let db ← db.execute [fun db => { db with projection := db.projection ++ inserted.flatten }]
  return { db with
    searchableItems := some (Store.semanticSearchableItemCountExact db.store) }

/-- `idx_sessions_unique_capture_source_external_session`. -/
def uniqueSourceSessions (db : Database) : Bool :=
  decide ((db.sessions.rows.filterMap fun row =>
    match row.captureSourceId, row.externalSessionId, row.deletedAtMs with
    | some source, some external, none => some (source, row.provider, external)
    | _, _, _ => none).Nodup)

/-- The part of `migrate_to_v47` before the indexes and triggers: the repair and the refresh of the
projection of the affected events.
-/
def repairedForV47 (jsonExtract : JsonExtract) (externals : Externals) (now : Int) (db : Database)
    : Except StoreError Database := do
  let (db, affected) ← repairDuplicateProviderSessions jsonExtract now db
  if affected.isEmpty then return db
  refreshEventSearchProjection externals db affected

/-- `migrate_to_v47`: the database with the invariants in place, or the error of a migration that
was rolled back.
-/
def migrateToV47 (jsonExtract : JsonExtract) (externals : Externals) (now : Int) (db : Database)
    : Except StoreError Database := do
  let db ← repairedForV47 jsonExtract externals now db
  if uniqueSourceSessions db then return db
  .error .sql

end CtxRemote.Schema
