import CtxRemote.Turso.KeyIntegrity
import CtxRemote.Turso.SearchIndex

/-! Idempotence of `push` and independence of its page boundaries.

On backed tables an exported event settles: repeating it, or skipping it because its key is
known, changes nothing. A push therefore does to the tables what the exportable events do one
after another, wherever its pages end and however often a part of it is repeated.
-/

namespace CtxRemote.Turso
open CtxRemote.Library

namespace Projection

-----------------------------------------------------------------------------------------
-- Settled events
-----------------------------------------------------------------------------------------

/-- The row's statements have nothing left to do: its key is owned, or, for a row without a
key, its id is stored.
-/
def Settled (db : Projection) (row : EventRow) : Prop :=
  match row.dedupeKey with
  | none => db.Stored row.eventId
  | some key => db.keyOwner key ≠ none

/-- An insert for a stored id changes nothing. -/
theorem insertEvent_stored {db : Projection} {row : EventRow}
    (stored : db.Stored row.eventId)
    : db.insertEvent row = db := by
  obtain ⟨held, member, same⟩ := stored
  have clash : EventRow.Clash held row := .inl same
  rw [insertEvent, Table.insertOrIgnore_clash member clash]

/-- The statements of a settled row change nothing. -/
theorem Settled.exportEvent_eq {db : Projection} (backed : db.Backed) {row : EventRow}
    (settled : db.Settled row)
    : db.exportEvent row = db := by
  obtain ⟨keyed, same⟩ | ⟨key, keyed, ⟨_, _, _, same⟩ | ⟨owned, same⟩ | ⟨free, same⟩⟩ :=
    exportEvent_cases db row
  all_goals rw [Settled, keyed] at settled
  · exact same.trans (insertEvent_stored settled)
  · exact same
  · exact same.trans (insertEvent_stored (backed.owners _ (keyOwner_eq_some.mp owned)))
  · exact absurd free settled

/-- A row is settled once its statements have run. -/
theorem settled_exportEvent (db : Projection) (row : EventRow)
    : (db.exportEvent row).Settled row := by
  obtain ⟨keyed, same⟩ | ⟨key, keyed, _⟩ := exportEvent_cases db row
  all_goals rw [Settled, keyed]
  · rw [same]
    exact stored_insertEvent fun held _ present eq => absurd (eq.trans keyed) present
  · dsimp only
    rw [keyOwner_exportEvent]
    split
    case isTrue => simp
    case isFalse other => exact fun free => other ⟨free, keyed⟩

/-- Settled rows stay settled. -/
theorem Settled.exportEvent {db : Projection} {row : EventRow} (settled : db.Settled row)
    (other : EventRow)
    : (db.exportEvent other).Settled row := by
  cases keyed : row.dedupeKey with
  | none =>
      rw [Settled, keyed] at settled ⊢
      exact Stored.exportEvent settled other
  | some key =>
      rw [Settled, keyed] at settled ⊢
      dsimp only at settled ⊢
      rw [keyOwner_exportEvent]
      split
      case isTrue => simp
      case isFalse => exact settled

theorem exportEvents_append_rows (db : Projection) (first second : List EventRow)
    : db.exportEvents (first ++ second) = (db.exportEvents first).exportEvents second :=
  List.foldl_append

theorem Settled.exportEvents {db : Projection} {row : EventRow} (settled : db.Settled row)
    (rows : List EventRow)
    : (db.exportEvents rows).Settled row := by
  induction rows generalizing db with
  | nil => exact settled
  | cons other rest ih => exact ih (settled.exportEvent other)

/-- All rows of a list are settled once its statements have run. -/
theorem settled_exportEvents {db : Projection} {rows : List EventRow} {row : EventRow}
    (member : row ∈ rows)
    : (db.exportEvents rows).Settled row := by
  induction rows generalizing db with
  | nil => cases member
  | cons other rest ih =>
      rcases List.mem_cons.mp member with rfl | later
      · exact (settled_exportEvent db row).exportEvents rest
      · exact ih later

/-- Settled rows may be left out of a list of exported events, by induction on the list. -/
theorem exportEvents_filter {db : Projection} (backed : db.Backed) {rows : List EventRow}
    (keep : EventRow → Bool) (dropped : ∀ row ∈ rows, keep row = false → db.Settled row)
    : db.exportEvents (rows.filter keep) = db.exportEvents rows := by
  induction rows generalizing db with
  | nil => rfl
  | cons row rest ih =>
      cases kept : keep row with
      | true =>
          rw [List.filter_cons_of_pos kept]
          exact ih (backed.exportEvent row) fun other member out =>
            (dropped other (List.mem_cons_of_mem _ member) out).exportEvent row
      | false =>
          rw [List.filter_cons_of_neg (by simp [kept])]
          have same := (dropped row List.mem_cons_self kept).exportEvent_eq backed
          have whole : db.exportEvents (row :: rest) = (db.exportEvent row).exportEvents rest :=
            rfl
          rw [whole, same]
          exact ih backed fun other member out =>
            dropped other (List.mem_cons_of_mem _ member) out

/-- Running a list of exported events again changes nothing. -/
theorem exportEvents_again {db : Projection} (backed : db.Backed) {rows : List EventRow}
    (settled : ∀ row ∈ rows, db.Settled row)
    : db.exportEvents rows = db := by
  rw [← exportEvents_filter backed (fun _ => false) fun row member _ =>
    settled row member, List.filter_false]
  rfl

-----------------------------------------------------------------------------------------
-- The full-text table aside
-----------------------------------------------------------------------------------------

/-- The same event and key tables with another full-text table. -/
def withSearch (db : Projection) (search : List SearchRow) : Projection :=
  { db with search := search }

/-- The statements of exported events neither read nor write the full-text table. -/
theorem exportEvents_withSearch (db : Projection) (search : List SearchRow)
    (rows : List EventRow)
    : (db.withSearch search).exportEvents rows = (db.exportEvents rows).withSearch search := by
  induction rows generalizing db with
  | nil => rfl
  | cons row rest ih =>
      have one
          : (db.withSearch search).exportEvent row = (db.exportEvent row).withSearch search := by
        unfold exportEvent
        split
        · rfl
        · dsimp only
          rw [apply_ite (Projection.withSearch · search)]
          rfl
      have split (start : Projection)
          : start.exportEvents (row :: rest) = (start.exportEvent row).exportEvents rest :=
        rfl
      rw [split, split, one, ih]

theorem commitBatch_eq (db : Projection) (rows : List EventRow)
    : ∃ search, db.commitBatch rows = (db.exportEvents rows).withSearch search := by
  cases rows with
  | nil => exact ⟨db.search, rfl⟩
  | cons row rest => exact ⟨_, rfl⟩

theorem Backed.withSearch {db : Projection} (backed : db.Backed) (search : List SearchRow)
    : (db.withSearch search).Backed :=
  backed.congr rfl rfl

/-- Equal event and key tables, and the same full-text rows in any order. -/
structure SameTables (left right : Projection) : Prop where
  events : left.events = right.events
  keys : left.keys = right.keys
  search : left.search.Perm right.search

/-- Projections that agree with their full-text tables are the same when their event and key
tables are.
-/
theorem SameTables.of_agrees {left right : Projection} (leftAgrees : left.SearchAgrees)
    (rightAgrees : right.SearchAgrees) (events : left.events = right.events)
    (keys : left.keys = right.keys)
    : SameTables left right where
  events := events
  keys := keys
  search := by
    rw [SearchAgrees, events] at leftAgrees
    exact leftAgrees.trans rightAgrees.symm

end Projection

-----------------------------------------------------------------------------------------
-- Pages without interference
-----------------------------------------------------------------------------------------

/-- At most `count` pages of a push that nothing interferes with. -/
def pushPages (store : LocalStore) : Nat → Projection × PushRun → Projection × PushRun
  | 0, state => state
  | count + 1, (db, run) =>
      match run.readPage store db with
      | none => (db, run)
      | some page => pushPages store count (page.commit db)

/-- A whole push that nothing interferes with; `none` when `fuel` pages do not end it. -/
def pushLoop (store : LocalStore) : Nat → Projection × PushRun → Option (Projection × PushRun)
  | 0, _ => none
  | fuel + 1, (db, run) =>
      match run.readPage store db with
      | none => some (db, run)
      | some page => pushLoop store fuel (page.commit db)

/-- The events of the pages that such a push reads, page by page. -/
def pushVisited (store : LocalStore) : Nat → Projection × PushRun → List (List Event)
  | 0, _ => []
  | fuel + 1, (db, run) =>
      match run.readPage store db with
      | none => []
      | some page => page.events :: pushVisited store fuel (page.commit db)

/-- The rows of the exportable events of a list. -/
def exportableRows (context : PushContext) (includeLocalOnly : Bool) (events : List Event)
    : List EventRow :=
  (events.filter fun event => remoteExportAllowed event includeLocalOnly).map
    (exportRow context)

/-- A push of `store` without a limit. -/
structure PushRun.Unlimited (run : PushRun) (store : LocalStore) : Prop where
  context : run.context = store.pushContext
  limit : run.args.limit = none

/-- The events that a run has not read yet. -/
def PushRun.unread (run : PushRun) (store : LocalStore) : List Event :=
  rowsAfter Event.id run.afterId store.events

/-- An unlimited run reads the next `batchSize` unread events, and ends when there are none. -/
theorem PushRun.readPage_unlimited {run : PushRun} {store : LocalStore}
    (unlimited : run.Unlimited store) (db : Projection)
    : (run.readPage store db = none ∧ run.unread store = [])
      ∨ ∃ page,
          run.readPage store db = some page
          ∧ page.run = run
          ∧ page.events = (run.unread store).take run.args.batchSize
          ∧ page.events.getLast? = some page.last
          ∧ ∀ key ∈ page.knownDedupeKeys, ∃ held ∈ db.keys, held.dedupeKey = key := by
  have size : run.pageSize = some run.args.batchSize := by
    simp [PushRun.pageSize, unlimited.limit]
  cases read : run.readPage store db with
  | none =>
      refine .inl ⟨rfl, ?_⟩
      have empty : store.listEventsPageAfter run.afterId run.args.batchSize = [] := by
        simpa [PushRun.readPage, size] using read
      rw [LocalStore.listEventsPageAfter, List.take_eq_nil_iff] at empty
      exact empty.resolve_left (by have := run.args.batchSizePos; omega)
  | some page =>
      obtain ⟨pageSize, sized, found⟩ := Option.bind_eq_some_iff.mp read
      obtain rfl : run.args.batchSize = pageSize := Option.some.inj (size.symm.trans sized)
      obtain ⟨last, ends, rfl⟩ := Option.map_eq_some_iff.mp found
      refine .inr ⟨_, rfl, rfl, rfl, ends, ?_⟩
      exact fun key known => List.mem_map.mp (List.mem_of_mem_filter known)

/-- The batch of a page does what all its exportable events do: those left out for a known key
are settled.
-/
theorem PushPage.commit_eq {page : PushPage} {db : Projection} (backed : db.Backed)
    (known : ∀ key ∈ page.knownDedupeKeys, ∃ held ∈ db.keys, held.dedupeKey = key)
    : ∃ search,
        db.commitBatch page.rows
        = (db.exportEvents (exportableRows page.run.context
            page.run.args.includeLocalOnly page.events)).withSearch search := by
  have rows : page.rows
      = (exportableRows page.run.context page.run.args.includeLocalOnly page.events).filter
          fun row => row.dedupeKey.all fun key => key ∉ page.knownDedupeKeys := by
    rw [PushPage.rows, exportableRows, List.filter_map, List.filter_filter]
    exact congrArg _ (List.filter_congr fun event _ => Bool.and_comm _ _)
  obtain ⟨search, same⟩ := Projection.commitBatch_eq db page.rows
  refine ⟨search, ?_⟩
  rw [same, rows, Projection.exportEvents_filter backed _]
  intro row _ dropped
  cases keyed : row.dedupeKey with
  | none => simp [keyed] at dropped
  | some key =>
      have inside : key ∈ page.knownDedupeKeys := by simpa [keyed] using dropped
      obtain ⟨held, member, rfl⟩ := known key inside
      rw [Projection.Settled, keyed]
      exact fun free => Projection.keyOwner_eq_none.mp free held member rfl

/-- After a page, the unread events are those that follow it. -/
theorem PushPage.unread_next {page : PushPage} {run : PushRun} {store : LocalStore}
    (events : page.events = (run.unread store).take run.args.batchSize)
    (last : page.events.getLast? = some page.last)
    : page.next.unread store = (run.unread store).drop run.args.batchSize := by
  rw [events] at last
  exact store.ordered.rowsAfter_page last

/-- The tables a push has built from a start, up to the full-text table, and its agreement. -/
structure Built (start : Projection) (rows : List EventRow) (built : Projection) : Prop where
  tables : ∃ search, built = (start.exportEvents rows).withSearch search
  agrees : built.SearchAgrees

/-- What is built in two parts is built from the joined rows. -/
theorem Built.trans {start middle final : Projection} {first second : List EventRow}
    (hf : Built start first middle) (hs : Built middle second final)
    : Built start (first ++ second) final where
  tables := by
    obtain ⟨_, rfl⟩ := hf.tables
    obtain ⟨search, rfl⟩ := hs.tables
    refine ⟨search, ?_⟩
    rw [Projection.exportEvents_withSearch, Projection.exportEvents_append_rows]
    rfl
  agrees := hs.agrees

theorem Built.backed {start built : Projection} {rows : List EventRow}
    (backed : start.Backed) (h : Built start rows built)
    : built.Backed := by
  obtain ⟨search, rfl⟩ := h.tables
  exact (backed.exportEvents rows).withSearch search

/-- Two projections built from one start with the same rows have the same tables. -/
theorem Built.sameTables {start left right : Projection} {rows : List EventRow}
    (hl : Built start rows left) (hr : Built start rows right)
    : Projection.SameTables left right := by
  obtain ⟨_, leftTables⟩ := hl.tables
  obtain ⟨_, rightTables⟩ := hr.tables
  refine .of_agrees hl.agrees hr.agrees ?_ ?_
  all_goals rw [leftTables, rightTables]; rfl

/-- Building rows again that were built before adds nothing. -/
theorem Built.again {start middle final : Projection} {first second : List EventRow}
    (backed : start.Backed) (hf : Built start first middle)
    (hs : Built middle (first ++ second) final)
    : Built middle second final where
  tables := by
    obtain ⟨search, same⟩ := hs.tables
    refine ⟨search, ?_⟩
    have settled : ∀ row ∈ first, middle.Settled row := by
      obtain ⟨_, rfl⟩ := hf.tables
      exact fun row member => Projection.settled_exportEvents member
    rw [same, Projection.exportEvents_append_rows,
      Projection.exportEvents_again (hf.backed backed) settled]
  agrees := hs.agrees

/-- One page of an unlimited push builds its exportable rows. -/
theorem PushPage.built {page : PushPage} {run : PushRun} {store : LocalStore}
    {db : Projection} (unlimited : run.Unlimited store) (backed : db.Backed)
    (agrees : db.SearchAgrees) (same : page.run = run)
    (events : page.events = (run.unread store).take run.args.batchSize)
    (known : ∀ key ∈ page.knownDedupeKeys, ∃ held ∈ db.keys, held.dedupeKey = key)
    : Built db
        (exportableRows store.pushContext run.args.includeLocalOnly
          ((run.unread store).take run.args.batchSize))
        (page.commit db).1 where
  tables := by
    rw [← events, ← unlimited.context, ← same]
    exact PushPage.commit_eq backed known
  agrees := agrees.commitBatch page.rows

/-- An unlimited push ends, builds the exportable rows of all unread events and visits each of
these events once. Witness: induction on the fuel, which each page reduces together with the
unread events.
-/
theorem pushLoop_built {store : LocalStore} {fuel : Nat} {db : Projection} {run : PushRun}
    (unlimited : run.Unlimited store) (backed : db.Backed) (agrees : db.SearchAgrees)
    (enough : (run.unread store).length < fuel)
    : (∃ final,
        pushLoop store fuel (db, run) = some final
        ∧ Built db
            (exportableRows store.pushContext run.args.includeLocalOnly (run.unread store))
            final.1)
      ∧ (pushVisited store fuel (db, run)).flatten = run.unread store := by
  induction fuel generalizing db run with
  | zero => omega
  | succ fuel ih =>
      obtain ⟨read, none⟩ | ⟨page, read, same, events, last, known⟩ :=
        run.readPage_unlimited unlimited db
      · simp only [pushLoop, pushVisited, read, none, List.flatten_nil, and_true]
        exact ⟨(db, run), rfl, ⟨db.search, rfl⟩, agrees⟩
      · have first := PushPage.built unlimited backed agrees same events known
        have nextUnread : page.next.unread store = (run.unread store).drop run.args.batchSize :=
          PushPage.unread_next events last
        have nextUnlimited : page.next.Unlimited store := by
          subst same
          exact ⟨unlimited.context, unlimited.limit⟩
        have shorter : (page.next.unread store).length < fuel := by
          have long : page.events ≠ [] := fun empty => by simp [empty] at last
          rw [events] at long
          have some := List.length_pos_of_ne_nil long
          have positive := run.args.batchSizePos
          rw [List.length_take] at some
          rw [nextUnread, List.length_drop]
          omega
        obtain ⟨⟨final, ends, later⟩, visited⟩ :=
          ih nextUnlimited (first.backed backed) first.agrees shorter
        have sameFlag : page.next.args.includeLocalOnly = run.args.includeLocalOnly :=
          congrArg (fun run => run.args.includeLocalOnly) same
        simp only [pushLoop, pushVisited, read]
        constructor
        · refine ⟨final, ends, ?_⟩
          have whole := first.trans later
          rwa [sameFlag, nextUnread, exportableRows, exportableRows, ← List.map_append,
            ← List.filter_append, List.take_append_drop] at whole
        · rw [List.flatten_cons, show (pushVisited store fuel (page.commit db)).flatten
            = page.next.unread store from visited, nextUnread, events, List.take_append_drop]

/-- Some pages of an unlimited push build the exportable rows of the events they read, and
leave the events that follow unread.
-/
theorem pushPages_built {store : LocalStore} {db : Projection} {run : PushRun}
    (unlimited : run.Unlimited store) (backed : db.Backed) (agrees : db.SearchAgrees)
    (count : Nat)
    : ∃ read,
        Built db
          (exportableRows store.pushContext run.args.includeLocalOnly
            ((run.unread store).take read))
          (pushPages store count (db, run)).1
        ∧ (pushPages store count (db, run)).2.unread store = (run.unread store).drop read := by
  induction count generalizing db run with
  | zero => exact ⟨0, ⟨⟨db.search, rfl⟩, agrees⟩, rfl⟩
  | succ count ih =>
      obtain ⟨read, none⟩ | ⟨page, read, same, events, last, known⟩ :=
        run.readPage_unlimited unlimited db
      · simp only [pushPages, read]
        exact ⟨0, ⟨⟨db.search, rfl⟩, agrees⟩, rfl⟩
      · have first := PushPage.built unlimited backed agrees same events known
        have nextUnread : page.next.unread store = (run.unread store).drop run.args.batchSize :=
          PushPage.unread_next events last
        have nextUnlimited : page.next.Unlimited store := by
          subst same
          exact ⟨unlimited.context, unlimited.limit⟩
        obtain ⟨more, later, rest⟩ := ih nextUnlimited (first.backed backed) first.agrees
        have sameFlag : page.next.args.includeLocalOnly = run.args.includeLocalOnly :=
          congrArg (fun run => run.args.includeLocalOnly) same
        simp only [pushPages, read]
        refine ⟨run.args.batchSize + more, ?_, ?_⟩
        · have whole := first.trans later
          rwa [sameFlag, nextUnread, exportableRows, exportableRows, ← List.map_append,
            ← List.filter_append, ← List.take_add] at whole
        · exact rest.trans (by rw [nextUnread, List.drop_drop])

/-- The arguments of an unlimited push of one store. -/
def unlimitedPush (batchSize : {size : Nat // 0 < size}) (afterEventId : Option String)
    (includeLocalOnly : Bool)
    : PushArgs where
  batchSize := batchSize.1
  batchSizePos := batchSize.2
  limit := none
  afterEventId := afterEventId
  includeLocalOnly := includeLocalOnly

/-- A step of a `push` process. -/
def Action.OfPush : Action → Prop
  | .startPush _ _ | .readPage _ | .sendPage | .stop => True
  | .startProject _ | .readMax | .sendProject | .compareMax => False

namespace World

variable {Machine : Type} [DecidableEq Machine]

/-- Pushes alone leave backed tables whose full-text table agrees. -/
theorem pushed_tables {snapshot : Option Snapshot} {labels : List (Machine × Action)}
    {world : World Machine} (reached : run step (init snapshot) labels = some world)
    (pushes : ∀ label ∈ labels, label.2.OfPush)
    : world.db.projection.Backed ∧ world.db.projection.SearchAgrees := by
  have guarded : AllSteps step ProjectsClearPage (init snapshot) labels := by
    refine AllSteps.of_labels (fun label member state args projected after found sends => ?_) _
    have push := pushes label member
    simp [sends, Action.OfPush] at push
  have initial : (init snapshot : World Machine).SearchSound := List.Perm.refl []
  have sound : world.SearchSound :=
    run_guarded SearchSound (fun _ _ _ sound clear taken => (step_searchSound_iff sound taken).mpr clear)
      initial guarded reached
  have backed : world.db.projection.Backed :=
    run_invariant (fun world : World Machine => world.db.projection.Backed)
      (fun _ _ _ backed taken => step_backed backed taken) Projection.Backed.empty reached
  exact ⟨backed, sound⟩

/-- After any pushes, one uninterrupted push of a store ends, and a push that is interrupted
after some pages and then resumed after its last id, or restarted, ends with the same tables;
the three may use different page sizes. The pages of the uninterrupted push list every event of
the store once, in order.
-/
theorem push_independent_of_paging (snapshot : Option Snapshot)
    (labels : List (Machine × Action)) (world : World Machine) (store : LocalStore)
    (includeLocalOnly : Bool) (whole first second : {size : Nat // 0 < size}) (count : Nat)
    (reached : run step (init snapshot) labels = some world)
    (pushes : ∀ label ∈ labels, label.2.OfPush)
    : let db := world.db.projection
      let fuel := store.events.length + 1
      let start size afterId :=
        PushRun.start store (unlimitedPush size afterId includeLocalOnly)
      let interrupted := pushPages store count (db, start first none)
      ∃ complete resumed restarted,
        pushLoop store fuel (db, start whole none) = some complete
        ∧ pushLoop store fuel (interrupted.1, start second interrupted.2.afterId)
          = some resumed
        ∧ pushLoop store fuel (interrupted.1, start second none) = some restarted
        ∧ Projection.SameTables resumed.1 complete.1
        ∧ Projection.SameTables restarted.1 complete.1
        ∧ (pushVisited store fuel (db, start whole none)).flatten = store.events := by
  intro db fuel start interrupted
  obtain ⟨backed, agrees⟩ := pushed_tables reached pushes
  have unlimited (size afterId) : (start size afterId).Unlimited store := ⟨rfl, rfl⟩
  have bounded (size afterId) : ((start size afterId).unread store).length < fuel := by
    have short : ((start size afterId).unread store).length ≤ store.events.length := by
      cases afterId with
      | none => exact Nat.le_refl _
      | some id => exact List.length_filter_le _ _
    exact Nat.lt_succ_of_le short
  obtain ⟨⟨complete, completeEnds, completeBuilt⟩, visited⟩ :=
    pushLoop_built (unlimited whole none) backed agrees (bounded whole none)
  obtain ⟨read, partBuilt, rest⟩ :=
    pushPages_built (unlimited first none) backed agrees count
  have partBacked := partBuilt.backed backed
  obtain ⟨⟨resumed, resumedEnds, resumedBuilt⟩, _⟩ :=
    pushLoop_built (unlimited second interrupted.2.afterId) partBacked partBuilt.agrees
      (bounded second interrupted.2.afterId)
  obtain ⟨⟨restarted, restartedEnds, restartedBuilt⟩, _⟩ :=
    pushLoop_built (unlimited second none) partBacked partBuilt.agrees (bounded second none)
  have parts
      : exportableRows store.pushContext includeLocalOnly (store.events.take read)
          ++ exportableRows store.pushContext includeLocalOnly (store.events.drop read)
        = exportableRows store.pushContext includeLocalOnly store.events := by
    rw [exportableRows, exportableRows, ← List.map_append, ← List.filter_append,
      List.take_append_drop]
    rfl
  have part
      : Built db (exportableRows store.pushContext includeLocalOnly (store.events.take read))
          interrupted.1 :=
    partBuilt
  refine ⟨complete, resumed, restarted, completeEnds, resumedEnds, restartedEnds, ?_, ?_,
    visited⟩
  · have resumedPart
        : Built interrupted.1
            (exportableRows store.pushContext includeLocalOnly (store.events.drop read))
            resumed.1 := by
      rw [show store.events.drop read = (start second interrupted.2.afterId).unread store
        from rest.symm]
      exact resumedBuilt
    have joined := part.trans resumedPart
    rw [parts] at joined
    exact joined.sameTables completeBuilt
  · have repeated
        : Built interrupted.1
            (exportableRows store.pushContext includeLocalOnly (store.events.take read)
              ++ exportableRows store.pushContext includeLocalOnly (store.events.drop read))
            restarted.1 := by
      rw [parts]
      exact restartedBuilt
    have joined := part.trans (Built.again backed part repeated)
    rw [parts] at joined
    exact joined.sameTables completeBuilt

/-- A machine has pushed an event of the third key, and a store of four events follows: two of them share
a key, one has the key that is known, and one has a key of its own.
-/
def earlierPushRun : List (Unit × Action) :=
  let store := oneEventStore "e0" "first" "h3"
  [((), .startPush store pushEverything), ((), .readPage store), ((), .sendPage)]

def sharedKeyStore : LocalStore where
  sessions := (oneEventStore "e1" "text" "h1").sessions
  captureSources := []
  events :=
    (oneEventStore "e1" "text" "h1").events ++ (oneEventStore "e2" "again" "h1").events
      ++ (oneEventStore "e3" "more" "h3").events ++ (oneEventStore "e4" "last" "h4").events
  ordered := by
    simp only [Ascending, oneEventStore]
    decide

/-- The theorem after the earlier push, in pages of two events and interrupted after a page of one: the
second event's key is owned by the event before it, on the same page or on an earlier one.
-/
theorem push_independent_of_paging_sharedKey
    : ∃ world,
        run step (init none) earlierPushRun = some world
        ∧ world.db.projection.Stored "e0"
        ∧ let db := world.db.projection
          let start size afterId := PushRun.start sharedKeyStore (unlimitedPush size afterId true)
          let interrupted := pushPages sharedKeyStore 1 (db, start ⟨1, Nat.one_pos⟩ none)
          interrupted.2.afterId = some "e1"
          ∧ ∃ complete resumed restarted,
              pushLoop sharedKeyStore 5 (db, start ⟨2, Nat.two_pos⟩ none) = some complete
              ∧ pushLoop sharedKeyStore 5
                  (interrupted.1, start ⟨2, Nat.two_pos⟩ interrupted.2.afterId) = some resumed
              ∧ pushLoop sharedKeyStore 5 (interrupted.1, start ⟨2, Nat.two_pos⟩ none)
                = some restarted
              ∧ Projection.SameTables resumed.1 complete.1
              ∧ Projection.SameTables restarted.1 complete.1
              ∧ (pushVisited sharedKeyStore 5 (db, start ⟨2, Nat.two_pos⟩ none)).flatten
                = sharedKeyStore.events := by
  have pushes : ∀ label ∈ earlierPushRun, label.2.OfPush := by
    simp [earlierPushRun, Action.OfPush]
  let world := (run step (init none) earlierPushRun).get (by decide)
  have ran : run step (init none) earlierPushRun = some world := (Option.some_get _).symm
  exact ⟨world, ran, by decide, by decide,
    push_independent_of_paging none earlierPushRun world sharedKeyStore true ⟨2, Nat.two_pos⟩
      ⟨1, Nat.one_pos⟩ ⟨2, Nat.two_pos⟩ 1 ran pushes⟩

end World

end CtxRemote.Turso
