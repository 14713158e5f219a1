import CtxRemote.Library.Like
import CtxRemote.Library.Table
import CtxRemote.Store.EventKeys
import CtxRemote.Store.Preview

/-! The store's `events` table and what its two writers, `upsert_event` and
`insert_event_if_absent`, keep beside it: the event search projection and the cached count of
semantically searchable items.
-/

namespace CtxRemote.Store
open CtxRemote.Library
open CtxRemote.Turso (trim Visibility SyncState)

-----------------------------------------------------------------------------------------
-- Events and rows
-----------------------------------------------------------------------------------------

/-- `Fidelity`. -/
inductive Fidelity where
  | full | partial' | imported | inferred | summaryOnly
deriving DecidableEq, Repr

/-- `DateTime<Utc>`, in nanoseconds since the epoch. -/
structure DateTime where
  nanos : Int
deriving DecidableEq, Repr

/-- `timestamp_ms`. -/
def timestampMs (value : DateTime) : Int := value.nanos / 1000000

/-- `SyncMetadata`, with its `Default`. -/
structure SyncMetadata where
  visibility : Visibility := .localOnly
  fidelity : Fidelity := .partial'
  syncState : SyncState := .localOnly
  syncVersion : UInt64 := 0
  deletedAt : Option DateTime := none
  metadata : Json := .object []
deriving BEq

/-- `Event`. -/
structure Event where
  id : Uuid
  seq : UInt64
  historyRecordId : Option Uuid
  sessionId : Option Uuid
  runId : Option Uuid
  eventType : EventType
  role : Option EventRole
  occurredAt : DateTime
  captureSourceId : Option Uuid
  payload : Json
  payloadBlobId : Option Uuid
  dedupeKey : Option String
  sync : SyncMetadata
deriving BEq

/-- A row of `events`. Columns with a fixed set of texts hold the enumeration. -/
structure EventRow where
  id : Uuid
  seq : Int
  historyRecordId : Option Uuid
  sessionId : Option Uuid
  runId : Option Uuid
  eventType : EventType
  role : Option EventRole
  occurredAtMs : Int
  captureSourceId : Option Uuid
  payloadJson : String
  payloadBlobId : Option Uuid
  dedupeKey : Option String
  visibility : Visibility
  fidelity : Fidelity
  syncState : SyncState
  syncVersion : Int
  deletedAtMs : Option Int
  metadataJson : String
deriving DecidableEq

/-- `value as i64`. -/
def asI64 (value : UInt64) : Int := value.toInt64.toInt

/-- The parameters of the `INSERT` of an event. -/
def Event.row (event : Event) : EventRow where
  id := event.id
  seq := asI64 event.seq
  historyRecordId := event.historyRecordId
  sessionId := event.sessionId
  runId := event.runId
  eventType := event.eventType
  role := event.role
  occurredAtMs := timestampMs event.occurredAt
  captureSourceId := event.captureSourceId
  payloadJson := event.payload.text
  payloadBlobId := event.payloadBlobId
  dedupeKey := event.dedupeKey
  visibility := event.sync.visibility
  fidelity := event.sync.fidelity
  syncState := event.sync.syncState
  syncVersion := asI64 event.sync.syncVersion
  deletedAtMs := event.sync.deletedAt.map timestampMs
  metadataJson := event.sync.metadata.text

/-- The primary key of `events`, its unique `seq` and the unique index on present dedupe keys. -/
def EventRow.Clash (left right : EventRow) : Prop :=
  left.id = right.id ∨ left.seq = right.seq
  ∨ (left.dedupeKey.isSome ∧ left.dedupeKey = right.dedupeKey)

instance : DecidableRel EventRow.Clash := fun left right =>
  inferInstanceAs (Decidable (left.id = right.id ∨ left.seq = right.seq
    ∨ (left.dedupeKey.isSome ∧ left.dedupeKey = right.dedupeKey)))

/-- The `CHECK` constraints of `events`. Those on other columns hold for every text that their
enumerations have.
-/
def EventRow.checked (row : EventRow) : Bool :=
  row.visibility ≠ .withheld && row.syncState ≠ .withheld

theorem EventRow.checked_iff {row : EventRow}
    : row.checked = true ↔ row.visibility ≠ .withheld ∧ row.syncState ≠ .withheld := by
  simp only [EventRow.checked, Bool.and_eq_true, decide_eq_true_eq]

abbrev EventTable := Table EventRow EventRow.Clash

/-- Two rows with one id clash. -/
theorem EventRow.clash_of_id (left right : EventRow) (same : left.id = right.id)
    : EventRow.Clash left right :=
  .inl same

-----------------------------------------------------------------------------------------
-- The database
-----------------------------------------------------------------------------------------

/-- What the projection reads of a row of `sessions`. -/
structure SessionRow where
  id : Uuid
  historyRecordId : Option Uuid
deriving DecidableEq

/-- What the projection reads of a row of `runs`. -/
structure RunRow where
  id : Uuid
  historyRecordId : Option Uuid
  sessionId : Option Uuid
deriving DecidableEq

/-- The tables that `events` has foreign keys to. -/
structure References where
  historyRecords : List Uuid
  captureSources : List Uuid
  artifacts : List Uuid
  sessions : List SessionRow
  runs : List RunRow

/-- The foreign keys of a row of `events`. -/
def References.hold (references : References) (row : EventRow) : Bool :=
  row.historyRecordId.all (· ∈ references.historyRecords)
  && row.sessionId.all (· ∈ references.sessions.map (·.id))
  && row.runId.all (· ∈ references.runs.map (·.id))
  && row.captureSourceId.all (· ∈ references.captureSources)
  && row.payloadBlobId.all (· ∈ references.artifacts)

/-- The tables of the event search projection. -/
inductive SearchTable where
  | eventSearch | eventSearchScriptgram | eventSearchLookup
deriving DecidableEq, Repr

/-- A row of one of the projection's tables; `text` is its `preview_text` or `token_text`. -/
structure SearchRow where
  table : SearchTable
  eventId : Uuid
  historyRecordId : Option Uuid
  sessionId : Option Uuid
  role : Option EventRole
  text : String
  rankBucket : String
deriving DecidableEq

/-- The part of a migrated store's database that event writes read and change, with all projection
tables in place. `searchableItems` is the cached count, if there is one.
-/
structure Database where
  references : References
  events : EventTable
  projection : List SearchRow
  searchableItems : Option Int

/-- `StoreError`, by the kinds that matter here. -/
inductive StoreError where
  | providerEventConflict (conflict : ProviderEventConflict)
  | importConflict (kind : String) (id : Uuid)
  | unsupportedArchiveVersion (version : Nat)
  | json
  | sql
  | other
deriving DecidableEq

/-- Functions that this model leaves open: `serde_json::from_str` for a `Value`, and
`scriptgram_index_text` of the search analyzer, which every projection writer shares.
-/
structure Externals where
  fromStr : String → Option Json
  scriptgramIndexText : String → String

namespace Database

/-- The dedupe keys of stored events. -/
def dedupeKeys (db : Database) : List String :=
  db.events.rows.filterMap (·.dedupeKey)

/-- `SELECT id FROM events WHERE dedupe_key = ?1`. -/
def eventIdByDedupeKey (db : Database) (dedupeKey : String) : Option Uuid :=
  (db.events.rows.find? fun row => row.dedupeKey = some dedupeKey).map (·.id)

/-- `SELECT … FROM events WHERE id = ?1`. -/
def eventById (db : Database) (id : Uuid) : Option EventRow :=
  db.events.rows.find? fun row => row.id = id

end Database

/-- A database without rows. -/
def Database.empty : Database where
  references := ⟨[], [], [], [], []⟩
  events := Table.empty
  projection := []
  searchableItems := none

-----------------------------------------------------------------------------------------
-- The search projection
-----------------------------------------------------------------------------------------

/-- `event_searchable_event_parts`. -/
def eventSearchableEventParts (payload : Json) (redactionState : RedactionState)
    (eventType : EventType) (role : Option EventRole) (visibility : Visibility)
    (syncState : SyncState) (deleted : Bool)
    : Bool :=
  if deleted || visibility = .withheld || syncState = .withheld || redactionState = .raw
      || redactionState = .withheld then false
  else
    !(trim (eventSearchPreviewFromPayload eventType role payload redactionState).toList).isEmpty

/-- `semantic_lookup_event_parts`. -/
def semanticLookupEventParts (eventType : EventType) (role : Option EventRole) : Bool :=
  eventType = .message && (role = some .user || role = some .assistant)

/-- The inserts that both projection writers make for one event with a given preview. -/
def searchRows (externals : Externals) (eventId : Uuid) (historyRecordId sessionId : Option Uuid)
    (role : Option EventRole) (eventType : EventType) (preview : String)
    : List SearchRow :=
  if (trim preview.toList).isEmpty then []
  else
    let row (table : SearchTable) (text : String) : SearchRow :=
      { table, eventId, historyRecordId, sessionId, role, text, rankBucket := eventType.asStr }
    let tokenText := externals.scriptgramIndexText preview
    [row .eventSearch preview]
      ++ (if tokenText.isEmpty then [] else [row .eventSearchScriptgram tokenText])
      ++ (if semanticLookupEventParts eventType role then [row .eventSearchLookup preview] else [])

/-- The rows that `insert_event_search_projection_for_event_id` inserts. -/
def insertedSearchRows (externals : Externals) (eventId : Uuid) (event : Event)
    : List SearchRow :=
  if !eventSearchableEventParts event.payload .safePreview event.eventType event.role
      event.sync.visibility event.sync.syncState event.sync.deletedAt.isSome then []
  else
    searchRows externals eventId event.historyRecordId event.sessionId event.role event.eventType
      (eventSearchPreviewFromPayload event.eventType event.role event.payload .safePreview)

/-- `insert_event_search_projection_for_event`. -/
def insertEventSearchProjectionForEvent (externals : Externals) (projection : List SearchRow)
    (event : Event)
    : List SearchRow :=
  projection ++ insertedSearchRows externals event.id event

/-- `upsert_event_search_projection_for_event`. -/
def upsertEventSearchProjectionForEvent (externals : Externals) (projection : List SearchRow)
    (eventId : Uuid) (event : Event)
    : List SearchRow :=
  projection.filter (fun row => row.eventId ≠ eventId)
    ++ insertedSearchRows externals eventId event

/-- `COALESCE(e.history_record_id, r.history_record_id, s.history_record_id,
rs.history_record_id)` over the event's run, its session and its run's session.
-/
def coalescedRecordId (references : References) (row : EventRow) : Option Uuid :=
  let run := row.runId.bind fun id => references.runs.find? (·.id = id)
  let session := row.sessionId.bind fun id => references.sessions.find? (·.id = id)
  let runSession :=
    (run.bind (·.sessionId)).bind fun id => references.sessions.find? (·.id = id)
  ((row.historyRecordId.or (run.bind (·.historyRecordId))).or
    (session.bind (·.historyRecordId))).or (runSession.bind (·.historyRecordId))

/-- The loop body of `populate_event_search_projection_from_query`; `none` where the stored
payload does not parse.
-/
def rebuiltSearchRows (externals : Externals) (references : References) (row : EventRow)
    : Option (List SearchRow) := do
  let payload ← externals.fromStr row.payloadJson
  return searchRows externals row.id (coalescedRecordId references row) row.sessionId row.role
    row.eventType (eventSearchPreviewFromPayload row.eventType row.role payload .safePreview)

/-- `ORDER BY e.occurred_at_ms, e.seq, e.id`. -/
def EventRow.before (left right : EventRow) : Prop :=
  left.occurredAtMs < right.occurredAtMs
  ∨ (left.occurredAtMs = right.occurredAtMs
    ∧ (left.seq < right.seq ∨ (left.seq = right.seq ∧ left.id.text ≤ right.id.text)))

instance : DecidableRel EventRow.before := fun left right =>
  inferInstanceAs (Decidable (left.occurredAtMs < right.occurredAtMs
    ∨ (left.occurredAtMs = right.occurredAtMs
      ∧ (left.seq < right.seq ∨ (left.seq = right.seq ∧ left.id.text ≤ right.id.text)))))

/-- The event tables that `rebuild_search_projection` leaves; `none` if it fails. -/
def rebuildSearchProjection (externals : Externals) (db : Database) : Option (List SearchRow) :=
  (db.events.rows.insertionSort EventRow.before).foldlM (fun projection row => do
    let rows ← rebuiltSearchRows externals db.references row
    return projection ++ rows) []

-----------------------------------------------------------------------------------------
-- The cached count
-----------------------------------------------------------------------------------------

/-- The texts that mark a control message. -/
def controlPrefixes : List String :=
  ["<environment_context>", "<turn_aborted>", "<subagent_notification>",
    "Warning: The maximum number of unified exec processes"]

/-- `semantic_lite_turn_preview_is_control`. -/
def semanticLiteTurnPreviewIsControl (preview : String) : Bool :=
  let trimmed := trim preview.toList
  controlPrefixes.any fun control => control.toList.isPrefixOf trimmed

/-- `semantic_searchable_event_parts`. -/
def semanticSearchableEventParts (payload : Json) (redactionState : RedactionState)
    (eventType : EventType) (role : Option EventRole) (visibility : Visibility)
    (syncState : SyncState) (deleted : Bool)
    : Bool :=
  if eventType ≠ .message || role ≠ some .user then false
  else if !eventSearchableEventParts payload redactionState eventType role visibility syncState
      deleted then false
  else
    !semanticLiteTurnPreviewIsControl
      (eventSearchPreviewFromPayload eventType role payload redactionState)

/-- `semantic_searchable_document_count_for_event`. -/
def semanticSearchableDocumentCountForEvent (event : Event) : Nat :=
  (semanticSearchableEventParts event.payload .safePreview event.eventType event.role
    event.sync.visibility event.sync.syncState event.sync.deletedAt.isSome).toNat

/-- `semantic_searchable_document_count_from_stored_event`. -/
def semanticSearchableDocumentCountFromStoredEvent (externals : Externals) (db : Database)
    (eventId : Uuid)
    : Except StoreError Nat :=
  match db.eventById eventId with
  | none => .ok 0
  | some row =>
      match externals.fromStr row.payloadJson with
      | none => .error .json
      | some payload =>
          .ok (semanticSearchableEventParts payload .safePreview row.eventType row.role
            row.visibility row.syncState row.deletedAtMs.isSome).toNat

/-- SQLite's `trim(X)`: spaces at both ends. -/
def sqlTrim (text : List Char) : List Char :=
  ((text.dropWhile (· = ' ')).reverse.dropWhile (· = ' ')).reverse

/-- What SQLite's `length` and `LIKE` see of a text: it ends for them at a zero character. -/
def untilZero (text : List Char) : List Char := text.takeWhile (· ≠ '\x00')

/-- `length(X)`. -/
def sqlLength (text : List Char) : Nat := (untilZero text).length

/-- `X LIKE pattern`, for a pattern without a zero character. -/
def sqlLike (text : List Char) (pattern : String) : Bool :=
  like none pattern.toList (untilZero text)

/-- `semantic_lite_turn_anchor_eligible_predicate`, with the join condition on the lookup row. -/
def anchorEligible (anchor : EventRow) (search : SearchRow) : Bool :=
  anchor.eventType = .message && anchor.role = some .user && anchor.deletedAtMs.isNone
  && anchor.visibility ≠ .withheld && anchor.syncState ≠ .withheld
  && 2 < sqlLength (sqlTrim anchor.payloadJson.toList)
  && (controlPrefixes.all fun control => !sqlLike (sqlTrim search.text.toList) (control ++ "%"))
  && 0 < sqlLength (sqlTrim search.text.toList)

/-- The lookup rows that the exact count joins to an event. -/
def anchorMatches (projection : List SearchRow) (anchor : EventRow) : List SearchRow :=
  projection.filter fun search =>
    search.table = .eventSearchLookup && search.eventId = anchor.id && anchorEligible anchor search

/-- `semantic_searchable_item_count_exact`. -/
def semanticSearchableItemCountExact (db : Database) : Nat :=
  (db.events.rows.map fun anchor => (anchorMatches db.projection anchor).length).sum

/-- `refresh_semantic_searchable_item_stats`. -/
def refreshSemanticSearchableItemStats (db : Database) : Database :=
  { db with searchableItems := some (semanticSearchableItemCountExact db) }

/-- `adjust_semantic_searchable_item_stats`. -/
def adjustSemanticSearchableItemStats (db : Database) (previousCount currentCount : Nat)
    : Database :=
  if previousCount = currentCount then db
  else
    match db.searchableItems with
    | none => refreshSemanticSearchableItemStats db
    | some value =>
        { db with
          searchableItems := some (max (value + ((currentCount : Int) - previousCount)) 0) }

-----------------------------------------------------------------------------------------
-- Writers
-----------------------------------------------------------------------------------------

/-- `reject_provider_event_hash_conflict` on the stored keys, for an event that has a key. -/
def rejectConflictingKey (db : Database) (dedupeKey : Option String) : Except StoreError Unit :=
  match dedupeKey with
  | none => .ok ()
  | some dedupeKey =>
      match rejectProviderEventHashConflict db.dedupeKeys dedupeKey with
      | .ok () => .ok ()
      | .error conflict => .error (.providerEventConflict conflict)

/-- `INSERT INTO events … ON CONFLICT(id) DO UPDATE`. -/
def upsertEventRow (db : Database) (row : EventRow) : Except StoreError EventTable :=
  if !row.checked || !db.references.hold row then .error .sql
  else
    match db.events.upsert? (·.id) row with
    | none => .error .sql
    | some events => .ok events

/-- `INSERT OR IGNORE INTO events`: `none` where the row is ignored. A missing foreign key is an
error all the same.
-/
def insertEventRowOrIgnore (db : Database) (row : EventRow)
    : Except StoreError (Option EventTable) :=
  if !row.checked || db.events.rows.any (EventRow.Clash · row) then .ok none
  else if !db.references.hold row then .error .sql
  else .ok (some (db.events.insertOrIgnore row))

/-- What `upsert_event` finds before it writes: an event that has the dedupe key already, or the
count of the row it replaces and the updated table.
-/
def upsertPlan (externals : Externals) (db : Database) (event : Event)
    : Except StoreError (Uuid ⊕ (Nat × EventTable)) := do
  rejectConflictingKey db event.dedupeKey
  match event.dedupeKey.bind db.eventIdByDedupeKey with
  | some existingId => return .inl existingId
  | none =>
      let previousSearchableCount ←
        semanticSearchableDocumentCountFromStoredEvent externals db event.id
      let events ← upsertEventRow db event.row
      return .inr (previousSearchableCount, events)

/-- `Store::upsert_event`: the id of the event, and the database. An error leaves the database as it
was.
-/
def upsertEvent (externals : Externals) (db : Database) (event : Event)
    : Except StoreError (Uuid × Database) := do
  match ← upsertPlan externals db event with
  | .inl existingId => return (existingId, db)
  | .inr (previousSearchableCount, events) =>
      let written :=
        { db with
          events := events
          projection :=
            upsertEventSearchProjectionForEvent externals db.projection event.id event }
      return (event.id, adjustSemanticSearchableItemStats written previousSearchableCount
        (semanticSearchableDocumentCountForEvent event))

/-- `Store::insert_event_if_absent`: whether the event was inserted, and the database. -/
def insertEventIfAbsent (externals : Externals) (db : Database) (event : Event)
    : Except StoreError (Bool × Database) := do
  match ← insertEventRowOrIgnore db event.row with
  | none =>
      rejectConflictingKey db event.dedupeKey
      return (false, db)
  | some events =>
      let written :=
        { db with
          events := events
          projection := insertEventSearchProjectionForEvent externals db.projection event }
      return (true, adjustSemanticSearchableItemStats written 0
        (semanticSearchableDocumentCountForEvent event))

end CtxRemote.Store
