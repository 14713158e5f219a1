import CtxRemote.Turso.SearchIndex

/-! What `project` without a limit completes.

The loop resumes after the largest stored event id. Snapshot events beyond that id are all
projected; those before it are left as they were, whoever wrote the row of the largest id.
-/

namespace CtxRemote.Turso
open CtxRemote.Library

namespace Projection

/-- The event has an event row, and exactly one full-text row. -/
def Projected (db : Projection) (id : String) : Prop :=
  db.Stored id ∧ (db.search.map (·.eventId)).count id = 1

instance (db : Projection) (id : String) : Decidable (db.Projected id) :=
  inferInstanceAs (Decidable (db.Stored id ∧ (db.search.map (·.eventId)).count id = 1))

/-- Full-text rows belong to stored event ids. -/
def SearchStored (db : Projection) : Prop := ∀ row ∈ db.search, db.Stored row.eventId

/-- An id lies beyond the largest stored id when it lies beyond every stored id. -/
theorem beyond_remoteMaxEventId {db : Projection} {id : String}
    : Beyond db.remoteMaxEventId id ↔ ∀ row ∈ db.events, row.eventId < id := by
  cases largest : db.remoteMaxEventId with
  | none =>
      have empty : db.events.rows = [] := by
        simpa [remoteMaxEventId, List.max?_eq_none_iff] using largest
      simp [Beyond, Table.mem_def, empty]
  | some max =>
      obtain ⟨member, bound⟩ := List.max?_eq_some_iff.mp largest
      obtain ⟨row, stored, rfl⟩ := List.mem_map.mp member
      constructor
      · exact fun beyond other inside =>
          lt_of_le_of_lt (bound _ (List.mem_map_of_mem inside)) beyond
      · exact fun all => all row stored

/-- No stored row lies beyond the largest stored id, so a page after it is clear. -/
theorem pageClear_remoteMaxEventId (db : Projection) (snapshot : Snapshot) (batchSize : Nat)
    : db.PageClear snapshot db.remoteMaxEventId batchSize :=
  fun stored member beyond =>
    absurd (beyond_remoteMaxEventId.mp beyond stored member) (lt_irrefl _)

/-- A batch after the largest stored id adds the rows of its page to both tables. -/
theorem projectBatch_at_max (db : Projection) (snapshot : Snapshot) (batchSize : Nat)
    : let page := snapshot.projectPage db.remoteMaxEventId batchSize
      let after := db.projectBatch snapshot db.remoteMaxEventId batchSize
      after.events.rows = db.events.rows ++ page
        ∧ after.search = db.search ++ page.map EventRow.searchRow := by
  have fresh : db.freshRows (snapshot.projectPage db.remoteMaxEventId batchSize)
      = snapshot.projectPage db.remoteMaxEventId batchSize := by
    refine List.filter_eq_self.mpr fun row inside => ?_
    refine (List.mem_filter.mp (mem_freshRows.mpr ⟨inside, fun held stored => ?_⟩)).2
    have beyond := (Snapshot.mem_projectPage inside).1
    exact ne_of_lt (beyond_remoteMaxEventId.mp beyond held stored)
  have search := searchPage_of_pageClear (pageClear_remoteMaxEventId db snapshot batchSize)
  refine ⟨?_, ?_⟩
  · rw [projectBatch_rows, fresh]
  · rw [← fresh, ← search]
    rfl

/-- The ids beyond the largest stored id after such a batch. -/
theorem beyond_after_batch {db : Projection} {snapshot : Snapshot} {batchSize : Nat}
    {id : String}
    : Beyond
          (db.projectBatch snapshot db.remoteMaxEventId batchSize).remoteMaxEventId id
      ↔ Beyond db.remoteMaxEventId id
        ∧ ∀ row ∈ snapshot.projectPage db.remoteMaxEventId batchSize, row.eventId < id := by
  rw [beyond_remoteMaxEventId, beyond_remoteMaxEventId]
  simp only [Table.mem_def, (projectBatch_at_max db snapshot batchSize).1, List.mem_append,
    or_imp, forall_and]

/-- The loop stops exactly at an empty page. -/
theorem remoteMaxEventId_stays_iff {db : Projection} {snapshot : Snapshot} {batchSize : Nat}
    : (db.projectBatch snapshot db.remoteMaxEventId batchSize).remoteMaxEventId
          = db.remoteMaxEventId
      ↔ snapshot.projectPage db.remoteMaxEventId batchSize = [] := by
  constructor
  · intro stays
    refine List.eq_nil_iff_forall_not_mem.mpr fun row inside => ?_
    have beyond := (Snapshot.mem_projectPage inside).1
    rw [← stays, beyond_after_batch] at beyond
    exact lt_irrefl _ (beyond.2 row inside)
  · intro none
    have rows := (projectBatch_at_max db snapshot batchSize).1
    rw [none, List.append_nil] at rows
    rw [remoteMaxEventId, rows]
    rfl

/-- A live event beyond the cursor is on the page or beyond it. -/
theorem onPage_or_beyond {db : Projection} {snapshot : Snapshot} (batchSize : Nat)
    {event : SnapshotEvent} (live : event ∈ snapshot.live)
    (beyond : Beyond db.remoteMaxEventId event.id)
    : snapshot.projectRow event ∈ snapshot.projectPage db.remoteMaxEventId batchSize
      ∨ Beyond
          (db.projectBatch snapshot db.remoteMaxEventId batchSize).remoteMaxEventId
          event.id := by
  have ordered : Ascending SnapshotEvent.id
      (snapshot.live.filter fun event => Beyond db.remoteMaxEventId event.id) :=
    (snapshot.ordered.filter _).filter _
  have member : event ∈ snapshot.live.filter fun event =>
      Beyond db.remoteMaxEventId event.id :=
    List.mem_filter.mpr ⟨live, decide_eq_true beyond⟩
  by_cases taken : event ∈ (snapshot.live.filter fun event =>
      Beyond db.remoteMaxEventId event.id).take batchSize
  · exact .inl (List.mem_map_of_mem taken)
  · refine .inr (beyond_after_batch.mpr ⟨beyond, fun row inside => ?_⟩)
    obtain ⟨first, early, rfl⟩ := List.mem_map.mp inside
    exact (ordered.take_lt member taken).2 first early

theorem SearchStored.projectBatch {db : Projection} (stored : db.SearchStored)
    (snapshot : Snapshot) (after : Option String) (batchSize : Nat)
    : (db.projectBatch snapshot after batchSize).SearchStored := by
  intro row member
  rcases List.mem_append.mp member with old | new
  · obtain ⟨held, inside, same⟩ := stored row old
    exact ⟨held, Table.mem_insertAll_of_mem inside, same⟩
  · obtain ⟨held, taken, rfl⟩ := List.mem_map.mp new
    have inside := List.mem_of_mem_filter (mem_orderBy.mp (List.mem_of_mem_take taken))
    exact ⟨held, inside, rfl⟩

theorem SearchStored.commitBatch {db : Projection} (stored : db.SearchStored)
    (rows : List EventRow)
    : (db.commitBatch rows).SearchStored := by
  cases rows with
  | nil => exact stored
  | cons first rest =>
      intro row member
      obtain ⟨untouched, added, grown, _⟩ := exportEvents_append db (first :: rest)
      rcases List.mem_append.mp member with old | new
      · have before := List.mem_of_mem_filter old
        rw [untouched] at before
        obtain ⟨held, inside, same⟩ := stored row before
        exact ⟨held, mem_exportEvents_events inside, same⟩
      · obtain ⟨held, inside, rfl⟩ := List.mem_map.mp new
        exact ⟨held, List.mem_of_mem_filter inside, rfl⟩

/-- What one batch after the largest stored id does to the projected live events: those on its
page become projected, and those before the cursor stay as they are.
-/
theorem projected_after_batch {db : Projection} (searchStored : db.SearchStored)
    {snapshot : Snapshot} {batchSize : Nat} {event : SnapshotEvent}
    (live : event ∈ snapshot.live)
    : (Beyond
          (db.projectBatch snapshot db.remoteMaxEventId batchSize).remoteMaxEventId event.id
        ∨ (db.projectBatch snapshot db.remoteMaxEventId batchSize).Projected event.id)
      ↔ Beyond db.remoteMaxEventId event.id ∨ db.Projected event.id := by
  obtain ⟨rows, search⟩ := projectBatch_at_max db snapshot batchSize
  have pageIds : ((snapshot.projectPage db.remoteMaxEventId batchSize).map
      EventRow.eventId).Nodup :=
    List.pairwise_map.mpr
      ((snapshot.projectPage_ordered _ _).imp fun before => ne_of_lt before)
  have count
      : ((db.projectBatch snapshot db.remoteMaxEventId batchSize).search.map
            (·.eventId)).count event.id
        = (db.search.map (·.eventId)).count event.id
          + ((snapshot.projectPage db.remoteMaxEventId batchSize).map
              EventRow.eventId).count event.id := by
    rw [search, List.map_append, List.count_append, List.map_map]
    rfl
  by_cases beyond : Beyond db.remoteMaxEventId event.id
  · refine iff_of_true ?_ (.inl beyond)
    rcases onPage_or_beyond batchSize live beyond with onPage | later
    · have unsearched : event.id ∉ db.search.map (·.eventId) := by
        intro searched
        obtain ⟨row, inside, same⟩ := List.mem_map.mp searched
        obtain ⟨held, stored, sameId⟩ := searchStored row inside
        have before := beyond_remoteMaxEventId.mp beyond held stored
        exact absurd (sameId.trans same) (ne_of_lt before)
      refine .inr ⟨⟨snapshot.projectRow event, ?_, rfl⟩, ?_⟩
      · rw [Table.mem_def, rows]
        exact List.mem_append_right _ onPage
      · have once := List.count_eq_one_of_mem pageIds (List.mem_map_of_mem onPage)
        rw [count, List.count_eq_zero_of_not_mem unsearched, Nat.zero_add]
        exact once
    · exact .inl later
  · have offPage
        : ∀ row ∈ snapshot.projectPage db.remoteMaxEventId batchSize,
            row.eventId ≠ event.id :=
      fun row inside same => beyond (same ▸ (Snapshot.mem_projectPage inside).1)
    have notLater
        : ¬ Beyond (db.projectBatch snapshot
            db.remoteMaxEventId batchSize).remoteMaxEventId event.id :=
      fun later => beyond (beyond_after_batch.mp later).1
    rw [or_iff_right notLater, or_iff_right beyond, Projected, Projected, count]
    have none : event.id ∉ (snapshot.projectPage db.remoteMaxEventId batchSize).map
        EventRow.eventId := by
      intro inside
      obtain ⟨row, onPage, same⟩ := List.mem_map.mp inside
      exact offPage row onPage same
    rw [List.count_eq_zero_of_not_mem none, Nat.add_zero]
    refine and_congr_left fun _ => ⟨?_, ?_⟩
    · rintro ⟨held, stored, same⟩
      rw [Table.mem_def, rows] at stored
      rcases List.mem_append.mp stored with old | new
      · exact ⟨held, old, same⟩
      · exact absurd same (offPage held new)
    · rintro ⟨held, stored, same⟩
      exact ⟨held, Table.mem_insertAll_of_mem stored, same⟩

end Projection

/-- The live snapshot events beyond the largest stored id. -/
def Snapshot.unprojected (snapshot : Snapshot) (db : Projection) : List SnapshotEvent :=
  snapshot.live.filter fun event => Beyond db.remoteMaxEventId event.id

/-- A batch with a nonempty page leaves fewer events beyond the largest stored id. -/
theorem Snapshot.unprojected_lt {snapshot : Snapshot} {db : Projection} {batchSize : Nat}
    (some : snapshot.projectPage db.remoteMaxEventId batchSize ≠ [])
    : (snapshot.unprojected
          (db.projectBatch snapshot db.remoteMaxEventId batchSize)).length
      < (snapshot.unprojected db).length := by
  obtain ⟨row, inside⟩ := List.exists_mem_of_ne_nil _ some
  obtain ⟨event, taken, rfl⟩ := List.mem_map.mp inside
  have within
      : snapshot.unprojected (db.projectBatch snapshot db.remoteMaxEventId batchSize)
        = (snapshot.unprojected db).filter fun event =>
            Beyond (db.projectBatch snapshot
              db.remoteMaxEventId batchSize).remoteMaxEventId event.id := by
    rw [unprojected, unprojected, List.filter_filter]
    refine List.filter_congr fun event _ => ?_
    rw [← Bool.decide_and, decide_eq_decide]
    exact ⟨fun later => ⟨later, (Projection.beyond_after_batch.mp later).1⟩, And.left⟩
  rw [within]
  refine List.length_filter_lt_length_iff_exists.mpr
    ⟨event, List.mem_of_mem_take taken, fun later => ?_⟩
  have beyond := Projection.beyond_after_batch.mp (of_decide_eq_true later)
  exact lt_irrefl _ (beyond.2 _ inside)

/-- The unlimited loop ends, and then a live event is projected exactly when it was projected
before or lies beyond the largest id that was stored before. Witness: induction on the number of
live events beyond the cursor, which each further batch reduces.
-/
theorem projectLoop_projected (snapshot : Snapshot) {batchSize : Nat}
    (positive : 0 < batchSize) (fuel projected : Nat) {db : Projection}
    (searchStored : db.SearchStored) (enough : (snapshot.unprojected db).length < fuel)
    : ∃ after,
        projectLoop ⟨batchSize, positive, none⟩ snapshot fuel projected db = some after
        ∧ ∀ event ∈ snapshot.live,
            after.Projected event.id
              ↔ Beyond db.remoteMaxEventId event.id ∨ db.Projected event.id := by
  induction fuel generalizing projected db with
  | zero => omega
  | succ fuel ih =>
      simp only [projectLoop, ProjectArgs.continues, Option.all_none, ↓reduceIte]
      have oneBatch (event : SnapshotEvent) (live : event ∈ snapshot.live) :=
        @Projection.projected_after_batch db searchStored snapshot batchSize event live
      by_cases stays :
          (db.projectBatch snapshot db.remoteMaxEventId batchSize).remoteMaxEventId
            = db.remoteMaxEventId
      · refine ⟨_, if_pos stays, fun event live => ?_⟩
        rw [← oneBatch event live, stays, or_iff_right]
        intro beyond
        have none := Projection.remoteMaxEventId_stays_iff.mp stays
        have empty : (snapshot.unprojected db).take batchSize = [] := List.map_eq_nil_iff.mp none
        have member : event ∈ snapshot.unprojected db :=
          List.mem_filter.mpr ⟨live, decide_eq_true beyond⟩
        rw [List.take_eq_nil_iff] at empty
        rcases empty with zero | nil
        · omega
        · simp [nil] at member
      · rw [if_neg stays]
        have some := mt Projection.remoteMaxEventId_stays_iff.mpr stays
        have fewer := Snapshot.unprojected_lt some
        obtain ⟨after, ends, exact⟩ :=
          ih (projected + batchSize)
            (searchStored.projectBatch snapshot db.remoteMaxEventId batchSize) (by omega)
        exact ⟨after, ends, fun event live => (exact event live).trans (oneBatch event live)⟩

namespace World

variable {Machine : Type} [DecidableEq Machine]

theorem step_searchStored {world next : World Machine} {label : Machine × Action}
    (stored : world.db.projection.SearchStored) (taken : world.step label = some next)
    : next.db.projection.SearchStored := by
  obtain same | ⟨page, _, _, same⟩ | ⟨args, _, after, snapshot, _, _, _, same⟩ :=
    step_projection taken
  all_goals rw [same]
  · exact stored
  · exact stored.commitBatch page.rows
  · exact stored.projectBatch snapshot after args.batchSize

/-- After any pushes and projects, an unlimited `project` ends, and it has projected every live
snapshot event exactly when each one that does not lie beyond the largest stored id was
projected already.
-/
theorem project_completes_iff (snapshot : Snapshot) (labels : List (Machine × Action))
    (world : World Machine) (batchSize fuel : Nat)
    (reached : run step (init (some snapshot)) labels = some world)
    (positive : 0 < batchSize) (enough : snapshot.events.length < fuel)
    : ∃ after,
        projectLoop ⟨batchSize, positive, none⟩ snapshot fuel 0 world.db.projection
          = some after
        ∧ ((∀ event ∈ snapshot.live, after.Projected event.id)
          ↔ ∀ event ∈ snapshot.live,
              ¬ Beyond world.db.projection.remoteMaxEventId event.id
              → world.db.projection.Projected event.id) := by
  have stored : world.db.projection.SearchStored :=
    run_invariant (fun world : World Machine => world.db.projection.SearchStored)
      (fun _ _ _ stored taken => step_searchStored stored taken)
      (fun _ member => absurd member List.not_mem_nil) reached
  have bounded : (snapshot.unprojected world.db.projection).length < fuel := by
    have live := List.length_filter_le (fun event : SnapshotEvent =>
      event.deletedAtMs.isNone) snapshot.events
    have beyond := List.length_filter_le (fun event : SnapshotEvent =>
      decide (Beyond world.db.projection.remoteMaxEventId event.id)) snapshot.live
    rw [Snapshot.unprojected]
    rw [← Snapshot.live] at live
    omega
  obtain ⟨after, ends, exact⟩ := projectLoop_projected snapshot positive fuel 0 stored bounded
  refine ⟨after, ends, forall₂_congr fun event live => ?_⟩
  rw [exact event live]
  exact or_iff_not_imp_left

/-- A snapshot of two events, in front of which a machine pushes one of its own; a `project` is stopped
after the batch of the first.
-/
def twoEventSnapshot : Snapshot where
  sessions := []
  events := (oneEventSnapshot "e1" "text").events ++ (oneEventSnapshot "e2" "more").events
  eventSearch := []
  ordered := by
    simp only [Ascending, oneEventSnapshot]
    decide

def stoppedProjectRun : List (Unit × Action) :=
  let store := oneEventStore "e0" "first" "h1"
  [((), .startPush store pushEverything), ((), .readPage store), ((), .sendPage), ((), .stop),
    ((), .startProject ⟨1, Nat.one_pos, none⟩), ((), .readMax), ((), .sendProject), ((), .stop)]

/-- The next `project` finds the pushed and the projected event, and completes the snapshot. -/
theorem project_completes_stopped
    : ∃ world after,
        run step (init (some twoEventSnapshot)) stoppedProjectRun = some world
        ∧ world.db.projection.remoteMaxEventId = some "e1"
        ∧ projectLoop ⟨1, Nat.one_pos, none⟩ twoEventSnapshot 3 0 world.db.projection = some after
        ∧ ∀ event ∈ twoEventSnapshot.live, after.Projected event.id := by
  let world :=
    (run step (init (some twoEventSnapshot)) stoppedProjectRun).get (by decide)
  have ran : run step (init (some twoEventSnapshot)) stoppedProjectRun = some world :=
    (Option.some_get _).symm
  obtain ⟨after, ends, complete⟩ :=
    project_completes_iff twoEventSnapshot stoppedProjectRun world 1 3 ran Nat.one_pos (by decide)
  exact ⟨world, after, ran, by decide, ends, complete.mpr (by decide)⟩

/-- One machine pushes an event whose id follows the id of the snapshot's event. -/
def pushLaterRun : List (Unit × Action) :=
  let store := oneEventStore "e2" "text" "h1"
  [((), .startPush store pushEverything), ((), .readPage store), ((), .sendPage)]

/-- The pushed id becomes the cursor, and `project` ends without the snapshot's event. -/
theorem pushLaterRun_skips_event
    : ∃ world after,
        run step (init (some (oneEventSnapshot "e1" "text"))) pushLaterRun = some world
        ∧ projectLoop ⟨1, Nat.one_pos, none⟩ (oneEventSnapshot "e1" "text") 2 0
            world.db.projection
          = some after
        ∧ ¬ after.Stored "e1" := by
  let world :=
    (run step (init (some (oneEventSnapshot "e1" "text"))) pushLaterRun).get (by decide)
  let after :=
    (projectLoop ⟨1, Nat.one_pos, none⟩ (oneEventSnapshot "e1" "text") 2 0
      world.db.projection).get (by decide)
  exact ⟨world, after, by simp [world], by simp [after], by decide⟩

end World

end CtxRemote.Turso
