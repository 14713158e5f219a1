import CtxRemote.Library.Keyset
import CtxRemote.Turso.DedupeKey
import CtxRemote.Turso.Schema

/-! The `push` command: local pages, the known-key lookup, and one atomic batch per page. -/

namespace CtxRemote.Turso
open CtxRemote.Library

-----------------------------------------------------------------------------------------
-- The local store and its pages
-----------------------------------------------------------------------------------------

/-- A row of the local `sessions` table, with the fields `push` reads. -/
structure StoredSession where
  id : String
  identity : SessionIdentity
deriving DecidableEq, Repr

/-- A row of the local `capture_sources` table, with the fields `push` reads. -/
structure StoredCaptureSource where
  id : String
  provider : String
deriving DecidableEq, Repr

/-- A local store. Its events are listed in the order of their primary key. -/
structure LocalStore where
  sessions : List StoredSession
  captureSources : List StoredCaptureSource
  events : List Event
  ordered : Ascending Event.id events

/-- `Store::list_events_page_after`: `WHERE id > ?1 ORDER BY id LIMIT ?2`, the bound optional. -/
def LocalStore.listEventsPageAfter (store : LocalStore) (afterId : Option String)
    (limit : Nat)
    : List Event :=
  (rowsAfter Event.id afterId store.events).take limit

/-- A page keeps the primary-key order of the store. -/
theorem LocalStore.listEventsPageAfter_ordered (store : LocalStore) (afterId : Option String)
    (limit : Nat)
    : Ascending Event.id (store.listEventsPageAfter afterId limit) :=
  (store.ordered.rowsAfter afterId).sublist (List.take_sublist _ _)

/-- The maps `push` builds from the store before its loop. -/
def LocalStore.pushContext (store : LocalStore) : PushContext where
  sessionIdentities := store.sessions.map fun session => (session.id, session.identity)
  captureSourceProviders :=
    store.captureSources.map fun source => (source.id, source.provider)

-----------------------------------------------------------------------------------------
-- The statements of one batch
-----------------------------------------------------------------------------------------

/-- The event row `push` uploads for a local event. -/
def exportRow (context : PushContext) (event : Event) : EventRow where
  eventId := event.id
  sessionId := event.sessionId
  provider := exportProvider context event
  role := event.role
  eventType := event.eventType
  occurredAtMs := event.occurredAtMs
  dedupeKey := remoteDedupeKey context event
  payloadJson := event.payloadJson
  searchText := event.payloadJson

/-- `INSERT OR IGNORE INTO ctx_turso_event_keys`. -/
def Projection.claimKey (db : Projection) (key id : String) : Projection :=
  { db with keys := db.keys.insertOrIgnore ⟨key, id⟩ }

/-- `INSERT OR IGNORE INTO ctx_turso_events`. -/
def Projection.insertEvent (db : Projection) (row : EventRow) : Projection :=
  { db with events := db.events.insertOrIgnore row }

/-- The statements of one exported event: claim its dedupe key, if it has one, and insert the
row where the key is owned by this event.
-/
def Projection.exportEvent (db : Projection) (row : EventRow) : Projection :=
  match row.dedupeKey with
  | none => db.insertEvent row
  | some key =>
      let db := db.claimKey key row.eventId
      if db.keyOwner key = some row.eventId then db.insertEvent row else db

/-- The statements of a list of exported events, in order. -/
def Projection.exportEvents (db : Projection) (rows : List EventRow) : Projection :=
  rows.foldl Projection.exportEvent db

/-- `DELETE FROM ctx_turso_search` and `INSERT INTO ctx_turso_search … SELECT` for the exported
ids.
-/
def Projection.refreshSearch (db : Projection) (ids : List String) : Projection :=
  { db with
    search :=
      (db.search.filter fun row => row.eventId ∉ ids)
        ++ (db.events.rows.filter fun row => row.eventId ∈ ids).map EventRow.searchRow }

/-- The transactional batch of one page; nothing is sent for a page without exports. -/
def Projection.commitBatch (db : Projection) (rows : List EventRow) : Projection :=
  if rows.isEmpty then db
  else (db.exportEvents rows).refreshSearch (rows.map (·.eventId))

-----------------------------------------------------------------------------------------
-- The page loop
-----------------------------------------------------------------------------------------

/-- `TursoPushArgs`, with a batch size accepted by `parse_push_batch_size`. -/
structure PushArgs where
  batchSize : Nat
  batchSizePos : 0 < batchSize
  limit : Option Nat
  afterEventId : Option String
  includeLocalOnly : Bool

/-- `TursoPushReport`. -/
structure PushReport where
  uploadedEvents : Nat
  skippedEvents : Nat
  scannedEvents : Nat
  batches : Nat
deriving DecidableEq, Repr

/-- The variables of a running `push` at the head of its loop. -/
structure PushRun where
  context : PushContext
  args : PushArgs
  afterId : Option String
  report : PushReport

/-- The loop variables of a new `push` call. -/
def PushRun.start (store : LocalStore) (args : PushArgs) : PushRun where
  context := store.pushContext
  args := args
  afterId := args.afterEventId
  report := ⟨0, 0, 0, 0⟩

/-- The size of the next page; `none` when the limit is used up. -/
def PushRun.pageSize (run : PushRun) : Option Nat :=
  match run.args.limit with
  | none => some run.args.batchSize
  | some limit =>
      let remaining := limit - run.report.scannedEvents
      if remaining = 0 then none else some (min remaining run.args.batchSize)

/-- A `push` between its two steps of a page: the page is read from the store and the known
keys are read from the remote, and the batch is not sent yet.
-/
structure PushPage where
  run : PushRun
  events : List Event
  last : Event
  knownDedupeKeys : List String
  ordered : Ascending Event.id events

/-- `remote_existing_dedupe_keys`: the candidates that have a key row. -/
def Projection.remoteExistingDedupeKeys (db : Projection) (candidates : List String)
    : List String :=
  (db.keys.rows.map (·.dedupeKey)).filter fun key => key ∈ candidates

/-- The first half of a loop iteration; `none` when the loop ends. -/
def PushRun.readPage (run : PushRun) (store : LocalStore) (db : Projection)
    : Option PushPage :=
  run.pageSize.bind fun pageSize =>
    let events := store.listEventsPageAfter run.afterId pageSize
    events.getLast?.map fun last =>
      { run := run
        events := events
        last := last
        knownDedupeKeys :=
          db.remoteExistingDedupeKeys (events.filterMap (remoteDedupeCandidate run.context))
        ordered := store.listEventsPageAfter_ordered run.afterId pageSize }

/-- An event of the page is exported when its visibility allows it and its key is unknown. -/
def PushPage.exported (page : PushPage) (event : Event) : Bool :=
  remoteExportAllowed event page.run.args.includeLocalOnly
    && ((remoteDedupeKey page.run.context event).all fun key => key ∉ page.knownDedupeKeys)

/-- The rows of the page's batch, in page order. -/
def PushPage.rows (page : PushPage) : List EventRow :=
  (page.events.filter page.exported).map (exportRow page.run.context)

/-- The loop variables after the page. -/
def PushPage.next (page : PushPage) : PushRun :=
  let uploaded := page.rows.length
  { page.run with
    afterId := some page.last.id
    report :=
      { uploadedEvents := page.run.report.uploadedEvents + uploaded
        skippedEvents := page.run.report.skippedEvents + (page.events.length - uploaded)
        scannedEvents := page.run.report.scannedEvents + page.events.length
        batches := page.run.report.batches + 1 } }

/-- The second half of a loop iteration: the batch, and the loop variables after it. -/
def PushPage.commit (page : PushPage) (db : Projection) : Projection × PushRun :=
  (db.commitBatch page.rows, page.next)

/-- The exported rows of a page have different event ids. -/
theorem PushPage.nodup_rows (page : PushPage) : (page.rows.map (·.eventId)).Nodup := by
  have same : page.rows.map (·.eventId) = (page.events.filter page.exported).map (·.id) := by
    simp [PushPage.rows, exportRow]
  rw [same]
  exact List.pairwise_map.mpr
    ((List.Pairwise.filter _ page.ordered).imp fun before => ne_of_lt before)

end CtxRemote.Turso
