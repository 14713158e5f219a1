import CtxRemote.Turso.ExportEffects
import CtxRemote.Turso.Interleaving

/-! Agreement of the full-text table `ctx_turso_search` with `ctx_turso_events`.

`push` replaces the full-text rows of its batch. `project` inserts the full-text rows of the
first event rows beyond its cursor, whether or not they have one already, so it relies on those
rows being exactly the ones it has just inserted.
-/

namespace CtxRemote.Turso
open CtxRemote.Library

namespace Projection

/-- The full-text table holds one row for each event row, with its id and text, and no other
row; the order of the rows is left open.
-/
def SearchAgrees (db : Projection) : Prop :=
  db.search.Perm (db.events.rows.map EventRow.searchRow)

instance (db : Projection) : Decidable db.SearchAgrees :=
  inferInstanceAs (Decidable (db.search.Perm (db.events.rows.map EventRow.searchRow)))

/-- Each event row stored beyond the cursor lies beyond a full snapshot page. -/
def PageClear (db : Projection) (snapshot : Snapshot) (after : Option String)
    (batchSize : Nat)
    : Prop :=
  ∀ stored ∈ db.events,
    Beyond after stored.eventId
    → (snapshot.projectPage after batchSize).length = batchSize
      ∧ ∀ row ∈ snapshot.projectPage after batchSize, row.eventId < stored.eventId

/-- A push batch keeps the full-text table in agreement. Witness: rows outside the batch keep
their full-text rows, and those of the batch are written anew from the event table.
-/
theorem SearchAgrees.commitBatch {db : Projection} (agrees : db.SearchAgrees)
    (rows : List EventRow)
    : (db.commitBatch rows).SearchAgrees := by
  cases rows with
  | nil => exact agrees
  | cons row rest =>
      obtain ⟨untouched, added, grown, fromBatch⟩ := exportEvents_append db (row :: rest)
      have ids : ∀ new ∈ added, new.eventId ∈ (row :: rest).map (·.eventId) :=
        fun new member => List.mem_map_of_mem (fromBatch new member)
      change ((db.exportEvents (row :: rest)).refreshSearch _).SearchAgrees
      generalize (row :: rest).map (·.eventId) = batch at ids
      generalize db.exportEvents (row :: rest) = after at untouched grown
      have noneAdded : added.filter (fun new => new.eventId ∉ batch) = [] := by
        simpa [List.filter_eq_nil_iff] using ids
      have outside
          : (db.search.filter fun held => held.eventId ∉ batch).Perm
              ((after.events.rows.filter fun held => held.eventId ∉ batch).map
                EventRow.searchRow) := by
        rw [grown, List.filter_append, noneAdded, List.append_nil]
        have filtered := agrees.filter fun held => held.eventId ∉ batch
        rwa [List.filter_map] at filtered
      have split
          := List.filter_append_perm (fun held : EventRow => held.eventId ∉ batch)
            after.events.rows
      have whole := split.map EventRow.searchRow
      rw [List.map_append] at whole
      refine List.Perm.trans ?_ whole
      simp only [refreshSearch, untouched]
      refine outside.append ?_
      simp

-----------------------------------------------------------------------------------------
-- Project batches
-----------------------------------------------------------------------------------------

/-- The snapshot rows of a page that the event table does not hold yet. -/
def freshRows (db : Projection) (page : List EventRow) : List EventRow :=
  page.filter fun row => ∀ held ∈ db.events.rows, ¬ held.Clash row

/-- A project batch appends the fresh rows of its page. -/
theorem projectBatch_rows (db : Projection) (snapshot : Snapshot) (after : Option String)
    (batchSize : Nat)
    : (db.projectBatch snapshot after batchSize).events.rows
      = db.events.rows ++ db.freshRows (snapshot.projectPage after batchSize) := by
  have compatible
      : (snapshot.projectPage after batchSize).Pairwise fun earlier later =>
          ¬ earlier.Clash later := by
    refine List.Pairwise.imp_of_mem ?_ (snapshot.projectPage_ordered after batchSize)
    intro earlier later _ inside before clash
    have same := (EventRow.clash_of_no_key (Snapshot.mem_projectPage inside).2.1).mp clash
    exact absurd same (ne_of_lt before)
  exact Table.insertAll_rows compatible

/-- A row of a page is fresh exactly when its event id is not stored. -/
theorem mem_freshRows {db : Projection} {snapshot : Snapshot} {after : Option String}
    {batchSize : Nat} {row : EventRow}
    : row ∈ db.freshRows (snapshot.projectPage after batchSize)
      ↔ row ∈ snapshot.projectPage after batchSize
        ∧ ∀ held ∈ db.events, held.eventId ≠ row.eventId := by
  simp only [freshRows, List.mem_filter, decide_eq_true_eq]
  refine and_congr_right fun inside => ?_
  have noKey := (Snapshot.mem_projectPage inside).2.1
  exact forall₂_congr fun held _ => not_congr (EventRow.clash_of_no_key noKey)

/-- The full-text rows of a project batch are those of its fresh rows, if the page is clear.
Witness: the fresh rows come first beyond the cursor, and the rows that were stored there before
start only after a full page.
-/
theorem searchPage_of_pageClear {db : Projection} {snapshot : Snapshot}
    {after : Option String} {batchSize : Nat}
    (clear : db.PageClear snapshot after batchSize)
    : (db.insertPage (snapshot.projectPage after batchSize)).searchPage after batchSize
      = (db.freshRows (snapshot.projectPage after batchSize)).map EventRow.searchRow := by
  have rows := projectBatch_rows db snapshot after batchSize
  have fromPage : ∀ row ∈ db.freshRows (snapshot.projectPage after batchSize),
      row ∈ snapshot.projectPage after batchSize := fun _ member => List.mem_of_mem_filter member
  have bounded : (db.freshRows (snapshot.projectPage after batchSize)).length ≤ batchSize :=
    (List.length_filter_le _ _).trans (snapshot.length_projectPage_le after batchSize)
  have freshOrdered
      : Ascending EventRow.eventId (db.freshRows (snapshot.projectPage after batchSize)) :=
    (snapshot.projectPage_ordered after batchSize).filter _
  -- A stored row beyond the cursor leaves the whole page fresh.
  have allFresh
      : ∀ stored ∈ db.events, Beyond after stored.eventId
          → (db.freshRows (snapshot.projectPage after batchSize)).length = batchSize := by
    intro stored member beyond
    have full : (db.freshRows (snapshot.projectPage after batchSize)).length
        = (snapshot.projectPage after batchSize).length := by
      refine List.length_filter_eq_length_iff.mpr fun row inside => ?_
      refine (List.mem_filter.mp (mem_freshRows.mpr ⟨inside, fun held here same => ?_⟩)).2
      have past : Beyond after held.eventId := same ▸ (Snapshot.mem_projectPage inside).1
      exact absurd same.symm (ne_of_lt ((clear held here past).2 row inside))
    exact full.trans (clear stored member beyond).1
  generalize db.freshRows (snapshot.projectPage after batchSize) = fresh at *
  have sorted
      : orderBy EventRow.eventId
          ((db.events.rows ++ fresh).filter fun row => Beyond after row.eventId)
        = fresh ++ orderBy EventRow.eventId
            (db.events.rows.filter fun row => Beyond after row.eventId) := by
    have freshBeyond : fresh.filter (fun row => Beyond after row.eventId) = fresh :=
      List.filter_eq_self.mpr fun row member =>
        decide_eq_true (Snapshot.mem_projectPage (fromPage row member)).1
    have uniqueAll
        : (((db.events.rows ++ fresh).filter fun row =>
            Beyond after row.eventId).map EventRow.eventId).Nodup := by
      refine List.Nodup.sublist (List.filter_sublist.map _) ?_
      have whole := nodup_eventIds (db.projectBatch snapshot after batchSize)
      rwa [rows] at whole
    refine (orderBy_ascending uniqueAll).eq_of_perm ?_ ?_
    · refine List.pairwise_append.mpr ⟨freshOrdered, ?_, ?_⟩
      · exact orderBy_ascending
          (List.Nodup.sublist (List.filter_sublist.map _) (nodup_eventIds db))
      · intro row inFresh stored inStored
        obtain ⟨member, beyond⟩ := List.mem_filter.mp (mem_orderBy.mp inStored)
        exact (clear stored member (of_decide_eq_true beyond)).2 row (fromPage row inFresh)
    · refine (orderBy_perm _).trans ?_
      rw [List.filter_append, freshBeyond]
      exact List.perm_append_comm.trans ((orderBy_perm _).symm.append_left fresh)
  rw [searchPage, show (db.insertPage (snapshot.projectPage after batchSize)).events.rows
    = db.events.rows ++ fresh from rows, sorted]
  congr 1
  cases beyond : db.events.rows.filter fun row => Beyond after row.eventId with
  | nil => simpa [orderBy] using List.take_of_length_le bounded
  | cons stored rest =>
      obtain ⟨member, past⟩ : stored ∈ db.events ∧ Beyond after stored.eventId := by
        have inside : stored ∈ db.events.rows.filter fun row => Beyond after row.eventId := by
          rw [beyond]
          exact List.mem_cons_self
        simpa [Table.mem_def] using inside
      exact List.take_left' (allFresh stored member past)

/-- A project batch that leaves the full-text table in agreement met a clear page. Witness: a
row stored beyond the cursor is not fresh, so it is not among the rows that got a full-text row,
and these were the first `batchSize` rows beyond the cursor.
-/
theorem pageClear_of_searchPage {db : Projection} {snapshot : Snapshot}
    {after : Option String} {batchSize : Nat}
    (exactRows
      : ((db.insertPage (snapshot.projectPage after batchSize)).searchPage after
            batchSize).Perm
          ((db.freshRows (snapshot.projectPage after batchSize)).map EventRow.searchRow))
    : db.PageClear snapshot after batchSize := by
  intro stored member beyond
  have rows := projectBatch_rows db snapshot after batchSize
  rw [searchPage, show (db.insertPage (snapshot.projectPage after batchSize)).events.rows
    = db.events.rows ++ db.freshRows (snapshot.projectPage after batchSize) from rows]
    at exactRows
  have ordered
      : Ascending EventRow.eventId
          (orderBy EventRow.eventId
            ((db.events.rows ++ db.freshRows (snapshot.projectPage after batchSize)).filter
              fun row => Beyond after row.eventId)) := by
    refine orderBy_ascending (List.Nodup.sublist (List.filter_sublist.map _) ?_)
    have whole := nodup_eventIds (db.projectBatch snapshot after batchSize)
    rwa [rows] at whole
  have inside
      : stored ∈ orderBy EventRow.eventId
          ((db.events.rows ++ db.freshRows (snapshot.projectPage after batchSize)).filter
            fun row => Beyond after row.eventId) :=
    mem_orderBy.mpr (List.mem_filter.mpr
      ⟨List.mem_append_left _ member, decide_eq_true beyond⟩)
  generalize orderBy EventRow.eventId
    ((db.events.rows ++ db.freshRows (snapshot.projectPage after batchSize)).filter
      fun row => Beyond after row.eventId) = sorted at *
  have sameIds
      : ((sorted.take batchSize).map EventRow.eventId).Perm
          ((db.freshRows (snapshot.projectPage after batchSize)).map EventRow.eventId) := by
    have ids := exactRows.map SearchRow.eventId
    rwa [List.map_map, List.map_map] at ids
  have notTaken : stored ∉ sorted.take batchSize := by
    intro taken
    have id := sameIds.mem_iff.mp (List.mem_map_of_mem taken)
    obtain ⟨row, fresh, same⟩ := List.mem_map.mp id
    exact (mem_freshRows.mp fresh).2 stored member same.symm
  obtain ⟨full, before⟩ := ordered.take_lt inside notTaken
  have freshLength : (db.freshRows (snapshot.projectPage after batchSize)).length = batchSize := by
    have same := sameIds.length_eq
    rw [List.length_map, List.length_map] at same
    exact same.symm.trans full
  have bounded := snapshot.length_projectPage_le after batchSize
  have filtered := List.length_filter_le
    (fun row => decide (∀ held ∈ db.events.rows, ¬ EventRow.Clash held row))
    (snapshot.projectPage after batchSize)
  rw [freshRows] at freshLength
  have pageLength : (snapshot.projectPage after batchSize).length = batchSize := by omega
  refine ⟨pageLength, fun row onPage => ?_⟩
  have allFresh := List.length_filter_eq_length_iff.mp (freshLength.trans pageLength.symm)
  have fresh : row ∈ db.freshRows (snapshot.projectPage after batchSize) :=
    List.mem_filter.mpr ⟨onPage, allFresh row onPage⟩
  have id := sameIds.mem_iff.mpr (List.mem_map_of_mem fresh)
  obtain ⟨first, taken, same⟩ := List.mem_map.mp id
  exact same ▸ before first taken

/-- A project batch keeps the full-text table in agreement exactly when its page is clear. -/
theorem searchAgrees_projectBatch_iff {db : Projection} (agrees : db.SearchAgrees)
    (snapshot : Snapshot) (after : Option String) (batchSize : Nat)
    : (db.projectBatch snapshot after batchSize).SearchAgrees
      ↔ db.PageClear snapshot after batchSize := by
  have reduced
      : (db.projectBatch snapshot after batchSize).SearchAgrees
        ↔ ((db.insertPage (snapshot.projectPage after batchSize)).searchPage after
              batchSize).Perm
            ((db.freshRows (snapshot.projectPage after batchSize)).map
              EventRow.searchRow) := by
    rw [SearchAgrees, projectBatch_rows, List.map_append]
    exact Iff.trans
      ⟨((agrees.append_right _).symm.trans ·), ((agrees.append_right _).trans ·)⟩
      (List.perm_append_left_iff _)
  rw [reduced]
  constructor
  · exact pageClear_of_searchPage
  · intro clear
    rw [searchPage_of_pageClear clear]

end Projection

namespace World

variable {Machine : Type} [DecidableEq Machine]

/-- The full-text table of a world agrees with its event table. -/
def SearchSound (world : World Machine) : Prop := world.db.projection.SearchAgrees

/-- The guard of a project batch: its page is clear. Other steps are not restricted. -/
def ProjectsClearPage (world : World Machine) (label : Machine × Action) : Prop :=
  ∀ args projected after snapshot,
    label.2 = .sendProject
    → world.process label.1 = .projectRead args projected after
    → world.db.snapshot = some snapshot
    → world.db.projection.PageClear snapshot after args.batchSize

/-- The effect of a project batch on the projection, read from the process before it. -/
theorem step_sendProject {world next : World Machine} {machine : Machine}
    {args : ProjectArgs} {projected : Nat} {after : Option String} {snapshot : Snapshot}
    (taken : world.step (machine, .sendProject) = some next)
    (holds : world.process machine = .projectRead args projected after)
    (present : world.db.snapshot = some snapshot)
    : next.db.projection
      = world.db.projection.projectBatch snapshot after args.batchSize := by
  simp only [step, holds, present, Option.map_some, Option.some.injEq] at taken
  rw [← taken]
  rfl

/-- One step keeps the full-text table in agreement exactly when it meets the guard. -/
theorem step_searchSound_iff {world next : World Machine} {label : Machine × Action}
    (sound : world.SearchSound) (taken : world.step label = some next)
    : next.SearchSound ↔ world.ProjectsClearPage label := by
  obtain ⟨machine, action⟩ := label
  constructor
  · intro after args projected cursor snapshot sends holds present
    obtain rfl : action = .sendProject := sends
    rw [SearchSound, step_sendProject taken holds present] at after
    exact (Projection.searchAgrees_projectBatch_iff sound snapshot cursor _).mp after
  · intro clear
    obtain same | ⟨page, _, _, same⟩
        | ⟨args, projected, cursor, snapshot, sends, holds, present, same⟩ :=
      step_projection taken
    · rw [SearchSound, same]
      exact sound
    · rw [SearchSound, same]
      exact Projection.SearchAgrees.commitBatch sound page.rows
    · rw [SearchSound, same]
      exact (Projection.searchAgrees_projectBatch_iff sound snapshot cursor _).mpr
        (clear args projected cursor snapshot sends holds present)

/-- Over every interleaving of push and project processes from the fresh schema, the full-text
table agrees with the event table in every state exactly when every project batch is sent with
a clear page.
-/
theorem searchSound_iff_projectsClearPage (snapshot : Option Snapshot)
    (labels : List (Machine × Action))
    : AllStates step SearchSound (init snapshot) labels
      ↔ AllSteps step ProjectsClearPage (init snapshot) labels :=
  allStates_iff_allSteps (fun _ => True) (fun _ _ _ _ _ => trivial)
    (fun _ _ _ _ sound taken => step_searchSound_iff sound taken) trivial (List.Perm.refl [])

/-- Two machines project the snapshot and read the same cursor before either sends its batch. -/
def twinProjectRun : List (Bool × Action) :=
  let args : ProjectArgs := ⟨1, Nat.one_pos, none⟩
  [(false, .startProject args), (true, .startProject args), (false, .readMax),
    (true, .readMax), (false, .sendProject), (true, .sendProject)]

/-- The second batch gives the event a second full-text row. -/
theorem twinProjectRun_duplicates
    : ∃ final,
        run step (init (some (oneEventSnapshot "e1" "text"))) twinProjectRun = some final
        ∧ ¬ final.SearchSound
        ∧ final.db.projection.search = [⟨"e1", "text"⟩, ⟨"e1", "text"⟩] := by
  refine ⟨(run step (init (some (oneEventSnapshot "e1" "text"))) twinProjectRun).get
    (by decide), by simp, ?_, by decide⟩
  unfold SearchSound
  decide

end World

end CtxRemote.Turso
