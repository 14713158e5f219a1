import CtxRemote.Library.Keyset
import CtxRemote.Turso.Schema

/-! The `project` command: the search projection of an imported local snapshot. -/

namespace CtxRemote.Turso
open CtxRemote.Library

/-- A row of the snapshot's `events` table, with the columns the remote queries read. -/
structure SnapshotEvent where
  id : String
  sessionId : Option String
  role : Option String
  eventType : String
  occurredAtMs : Int
  payloadJson : String
  dedupeKey : Option String
  deletedAtMs : Option Int
deriving DecidableEq, Repr

/-- A row of the snapshot's `sessions` table, with the columns the remote queries read. -/
structure SnapshotSession where
  id : String
  provider : String
deriving DecidableEq, Repr

/-- An imported local snapshot. Its events are listed in the order of their primary key;
`eventSearch` is its full-text table `event_search`.
-/
structure Snapshot where
  sessions : List SnapshotSession
  events : List SnapshotEvent
  eventSearch : List SearchRow
  ordered : Ascending SnapshotEvent.id events

/-- The remote database: the projection, and the snapshot tables where they exist. -/
structure RemoteDb where
  projection : Projection
  snapshot : Option Snapshot

/-- The `LEFT JOIN sessions` of a snapshot event, as its provider. -/
def Snapshot.provider (snapshot : Snapshot) (event : SnapshotEvent) : Option String :=
  (snapshot.sessions.find? fun session => some session.id = event.sessionId).map (·.provider)

/-- The row `project` inserts for a snapshot event. It sets no dedupe key. -/
def Snapshot.projectRow (snapshot : Snapshot) (event : SnapshotEvent) : EventRow where
  eventId := event.id
  sessionId := event.sessionId
  provider := (snapshot.provider event).getD "unknown"
  role := event.role
  eventType := event.eventType
  occurredAtMs := event.occurredAtMs
  dedupeKey := none
  payloadJson := event.payloadJson
  searchText := event.payloadJson

/-- `id > after`, where a cursor was found. -/
def Beyond : Option String → String → Prop
  | none, _ => True
  | some after, id => after < id

instance (after : Option String) (id : String) : Decidable (Beyond after id) :=
  match after with
  | none => inferInstanceAs (Decidable True)
  | some _ => inferInstanceAs (Decidable (_ < _))

/-- The live snapshot events. -/
def Snapshot.live (snapshot : Snapshot) : List SnapshotEvent :=
  snapshot.events.filter fun event => event.deletedAtMs.isNone

/-- The rows that one project batch selects from the snapshot. -/
def Snapshot.projectPage (snapshot : Snapshot) (after : Option String) (batchSize : Nat)
    : List EventRow :=
  ((snapshot.live.filter fun event => Beyond after event.id).take batchSize).map
    snapshot.projectRow

/-- `remote_max_event_id`. -/
def Projection.remoteMaxEventId (db : Projection) : Option String :=
  (db.events.rows.map (·.eventId)).max?

/-- The full-text rows that the second statement of a project batch inserts. -/
def Projection.searchPage (db : Projection) (after : Option String) (batchSize : Nat)
    : List SearchRow :=
  ((orderBy EventRow.eventId
      (db.events.rows.filter fun row => Beyond after row.eventId)).take batchSize).map
    EventRow.searchRow

/-- The first statement of a project batch: `INSERT OR IGNORE` of the snapshot page. -/
def Projection.insertPage (db : Projection) (page : List EventRow) : Projection :=
  { db with events := db.events.insertAll page }

/-- The transactional batch of one `project` iteration. -/
def Projection.projectBatch (db : Projection) (snapshot : Snapshot) (after : Option String)
    (batchSize : Nat)
    : Projection :=
  let db := db.insertPage (snapshot.projectPage after batchSize)
  { db with search := db.search ++ db.searchPage after batchSize }

/-- `TursoProjectArgs`, with a positive batch size. -/
structure ProjectArgs where
  batchSize : Nat
  batchSizePos : 0 < batchSize
  limit : Option Nat

/-- The loop of `project` runs on while the limit is not reached. -/
def ProjectArgs.continues (args : ProjectArgs) (projected : Nat) : Bool :=
  args.limit.all fun limit => projected < limit

/-- The loop of `project` without interference; `none` when `fuel` iterations do not end it. -/
def projectLoop (args : ProjectArgs) (snapshot : Snapshot)
    : Nat → Nat → Projection → Option Projection
  | 0, _, _ => none
  | fuel + 1, projected, db =>
      if args.continues projected then
        let after := db.remoteMaxEventId
        let db := db.projectBatch snapshot after args.batchSize
        if db.remoteMaxEventId = after then some db
        else projectLoop args snapshot fuel (projected + args.batchSize) db
      else some db

/-- The snapshot events beyond a bound, as project rows. -/
theorem Snapshot.mem_projectPage {snapshot : Snapshot} {after batchSize row}
    (member : row ∈ snapshot.projectPage after batchSize)
    : Beyond after row.eventId ∧ row.dedupeKey = none
      ∧ ∃ event ∈ snapshot.live, snapshot.projectRow event = row := by
  obtain ⟨event, selected, rfl⟩ := List.mem_map.mp member
  obtain ⟨live, beyond⟩ := List.mem_filter.mp (List.mem_of_mem_take selected)
  exact ⟨of_decide_eq_true beyond, rfl, event, live, rfl⟩

/-- A project page lists its rows by increasing event id. -/
theorem Snapshot.projectPage_ordered (snapshot : Snapshot) (after : Option String)
    (batchSize : Nat)
    : Ascending EventRow.eventId (snapshot.projectPage after batchSize) :=
  List.pairwise_map.mpr
    ((((snapshot.ordered.filter _).filter _).sublist (List.take_sublist _ _)).imp id)

theorem Snapshot.length_projectPage_le (snapshot : Snapshot) (after : Option String)
    (batchSize : Nat)
    : (snapshot.projectPage after batchSize).length ≤ batchSize := by
  simp [Snapshot.projectPage]

end CtxRemote.Turso
