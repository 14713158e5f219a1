import CtxRemote.Capture.ImportPrograms
import CtxRemote.Store.HashConflicts

/-! The two ways of storing runs and events. With `fast_event_inserts` the importer ignores what is
stored already, and looks for a conflicting event only where its insert was ignored; an error there
ends the import. Without it, it looks first, counts a conflicting event as skipped, and updates.
-/

namespace CtxRemote.Capture
open CtxRemote.Library
open CtxRemote.Store
  (Uuid Event EventRow EventTable StoreError rejectConflictingKey upsertEventRow insertEventRowOrIgnore)
open CtxRemote.Sync (ProviderImportSummary)

-----------------------------------------------------------------------------------------
-- Settled runs and events
-----------------------------------------------------------------------------------------

/-- An update of the run would not change what is stored under its id. -/
def RunSettled (store : ImportStore) : Option Run → Prop
  | none => True
  | some run =>
      ∀ held, store.runs.find? run.id = some held →
        store.runReferencesHold run = true ∧ store.upsertedRun run = held

/-- The run gets stored, or is stored. -/
def RunAccepted (store : ImportStore) : Option Run → Prop
  | none => True
  | some run => store.runs.holds run.id = true ∨ store.runReferencesHold run = true

/-- No stored event conflicts with the event, and a stored event that takes its id or its sequence
number has its key.
-/
def EventSettled (store : ImportStore) (event : Event) : Prop :=
  rejectConflictingKey store.database event.dedupeKey = .ok ()
  ∧ (event.dedupeKey.any (providerEventExists store) = true
    ∨ ∀ held ∈ store.events.rows, ¬ EventRow.Clash held event.row)

/-- Both ways of storing the run and the event do the same. -/
def StoringSettled (store : ImportStore) (run : Option Run) (event : Event) : Prop :=
  RunSettled store run ∧ (RunAccepted store run → EventSettled store event)

/-- A run whose update changes nothing is inserted or updated alike. -/
theorem insertRun_eq_upsertRun_iff {store : ImportStore} {run : Run}
    : store.insertRunIfAbsent run = store.upsertRun run ↔ RunSettled store (some run) := by
  unfold ImportStore.insertRunIfAbsent ImportStore.upsertRun RunSettled
  cases found : store.runs.find? run.id with
  | none =>
      have absent : store.runs.holds run.id = false := by simp [Keyed.holds, found]
      have same : store.upsertedRun run = run := by simp [ImportStore.upsertedRun, found]
      rw [if_neg (by simp [absent]), same]
      refine iff_of_true rfl fun held stored => ?_
      rw [found] at stored
      cases stored
  | some held =>
      have present : store.runs.holds run.id = true := by simp [Keyed.holds, found]
      rw [if_pos present]
      constructor
      · intro same other stored
        obtain rfl : held = other := Option.some.inj (found.symm.trans stored)
        split at same
        next refers =>
            have runs := congrArg ImportStore.runs (Except.ok.inj same)
            have found' := congrArg (·.find? run.id) runs
            simp only [found, Keyed.find?_put] at found'
            rw [if_pos (by rfl)] at found'
            exact ⟨refers, (Option.some.inj found').symm⟩
        next => cases same
      · intro settled
        obtain ⟨refers, same⟩ := settled held found
        have kept : store.runs.put (store.upsertedRun run) = store.runs :=
          Keyed.put_self (by rw [same, Keyed.key_of_find? found, found])
        rw [if_pos refers, kept]

/-- What a run is stored as leaves the events. -/
theorem events_of_upsertRun {store next : ImportStore} {run : Run}
    (done : store.upsertRun run = .ok next)
    : next.events = store.events := by
  unfold ImportStore.upsertRun at done
  split at done
  next =>
      cases done
      rfl
  next => cases done

/-- Settled events are a matter of the stored events. -/
theorem eventSettled_congr {left right : ImportStore} (same : left.events = right.events)
    (event : Event)
    : EventSettled left event ↔ EventSettled right event := by
  unfold EventSettled
  have keys : left.database.dedupeKeys = right.database.dedupeKeys := by
    simp [Store.Database.dedupeKeys, ImportStore.database, same]
  have rejected (key : Option String)
      : rejectConflictingKey left.database key = rejectConflictingKey right.database key := by
    simp only [rejectConflictingKey, keys]
  have exist : providerEventExists left = providerEventExists right := by
    funext key
    simp [providerEventExists, Store.Database.eventIdByDedupeKey, ImportStore.database, same]
  rw [rejected, exist, same]

-----------------------------------------------------------------------------------------
-- The two event writers
-----------------------------------------------------------------------------------------

section Writers

variable {externals : Store.Externals} {store : ImportStore} {event : Event}

/-- The insert of an event that clashes with a stored one, or misses a referenced row. -/
theorem insertEventIfAbsent_clash (clash : ∃ held ∈ store.events.rows, EventRow.Clash held event.row)
    : store.insertEventIfAbsent externals event
      = (rejectConflictingKey store.database event.dedupeKey).map fun _ => (false, store) := by
  have ignored : insertEventRowOrIgnore store.database event.row = .ok none := by
    unfold insertEventRowOrIgnore
    rw [if_pos]
    simp only [Bool.or_eq_true, List.any_eq_true, decide_eq_true_eq]
    exact .inr clash
  unfold ImportStore.insertEventIfAbsent Store.insertEventIfAbsent
  rw [ignored]
  cases rejectConflictingKey store.database event.dedupeKey <;> rfl

/-- The insert of an event that clashes with none. -/
theorem insertEventIfAbsent_free (legal : event.row.checked = true)
    (free : ∀ held ∈ store.events.rows, ¬ EventRow.Clash held event.row)
    : store.insertEventIfAbsent externals event
      = if store.database.references.hold event.row
        then .ok (true, { store with events := store.events.insertOrIgnore event.row })
        else .error .sql := by
  have unclashed : store.database.events.rows.any (EventRow.Clash · event.row) = false := by
    rw [List.any_eq_false]
    exact fun held member => by simpa using free held member
  unfold ImportStore.insertEventIfAbsent Store.insertEventIfAbsent insertEventRowOrIgnore
  rw [legal, unclashed]
  by_cases refers : store.database.references.hold event.row = true
  · simp only [refers]
    simp [bind, Except.bind, pure, Except.pure, Except.map, ImportStore.database]
  · simp [refers, bind, Except.bind, Except.map]

/-- The update for an event with a conflict. -/
theorem upsertEvent_conflict {error : StoreError}
    (conflict : rejectConflictingKey store.database event.dedupeKey = .error error)
    : store.upsertEvent externals event = .error error := by
  unfold ImportStore.upsertEvent Store.upsertEvent Store.upsertPlan
  rw [conflict]
  rfl

/-- The update for an event whose key is stored. -/
theorem upsertEvent_stored
    (agrees : rejectConflictingKey store.database event.dedupeKey = .ok ())
    (stored : event.dedupeKey.any (providerEventExists store) = true)
    : store.upsertEvent externals event = .ok store := by
  cases named : event.dedupeKey with
  | none => simp [named] at stored
  | some key =>
      have exist : providerEventExists store key = true := by simpa [named] using stored
      obtain ⟨id, found⟩ := Option.isSome_iff_exists.mp exist
      unfold ImportStore.upsertEvent Store.upsertEvent Store.upsertPlan
      rw [agrees]
      simp [named, found, bind, Except.bind, pure, Except.pure, Except.map]
      rfl

/-- The update for an event that no stored one has the key of. -/
theorem upsertEvent_new
    (agrees : rejectConflictingKey store.database event.dedupeKey = .ok ())
    (unstored : event.dedupeKey.any (providerEventExists store) = false)
    : store.upsertEvent externals event
      = do
          let _ ← Store.semanticSearchableDocumentCountFromStoredEvent externals store.database
            event.id
          let events ← upsertEventRow store.database event.row
          return { store with events := events } := by
  have unknown : event.dedupeKey.bind store.database.eventIdByDedupeKey = none := by
    cases named : event.dedupeKey with
    | none => rfl
    | some key => simpa [named, providerEventExists] using unstored
  unfold ImportStore.upsertEvent Store.upsertEvent Store.upsertPlan
  rw [agrees, unknown]
  cases Store.semanticSearchableDocumentCountFromStoredEvent externals store.database event.id with
  | error _ => rfl
  | ok previous =>
      cases upsertEventRow store.database event.row with
      | error _ => rfl
      | ok events => simp [bind, Except.bind, pure, Except.pure, Except.map]

/-- The update for an event that clashes with none. -/
theorem upsertEvent_free (legal : event.row.checked = true)
    (agrees : rejectConflictingKey store.database event.dedupeKey = .ok ())
    (free : ∀ held ∈ store.events.rows, ¬ EventRow.Clash held event.row)
    : store.upsertEvent externals event
      = if store.database.references.hold event.row
        then .ok { store with events := store.events.insertOrIgnore event.row }
        else .error .sql := by
  have unstored : event.dedupeKey.any (providerEventExists store) = false := by
    cases named : event.dedupeKey with
    | none => rfl
    | some key =>
        have other : ∀ held ∈ store.events.rows, held.dedupeKey ≠ some key := by
          intro held member same
          have named' : event.row.dedupeKey = some key := named
          exact free held member (.inr (.inr ⟨by rw [same]; rfl, same.trans named'.symm⟩))
        simpa [providerEventExists, Store.Database.eventIdByDedupeKey, ImportStore.database]
          using other
  have unnumbered : store.database.eventById event.id = none := by
    unfold Store.Database.eventById
    rw [List.find?_eq_none]
    intro held member same
    exact free held member (.inl (of_decide_eq_true same))
  have count
      : Store.semanticSearchableDocumentCountFromStoredEvent externals store.database event.id
        = .ok 0 := by
    simp [Store.semanticSearchableDocumentCountFromStoredEvent, unnumbered]
  rw [upsertEvent_new agrees unstored, count]
  unfold upsertEventRow
  by_cases refers : store.database.references.hold event.row = true
  · have others : store.events.others (·.id) event.row.id = store.events.rows := by
      rw [Table.others, List.filter_eq_self]
      intro held member
      simpa using fun same => free held member (.inl same)
    have placed
        : store.events.upsert? (·.id) event.row = some (store.events.insertOrIgnore event.row) := by
      unfold Table.upsert?
      rw [dif_pos (by rw [others]; exact free)]
      congr 1
      apply Table.ext
      rw [Table.insertOrIgnore_free free]
      exact congrArg (· ++ [event.row]) others
    have placed' : store.database.events.upsert? (·.id) event.row
        = some (store.events.insertOrIgnore event.row) := placed
    simp [legal, refers, placed', bind, Except.bind, pure, Except.pure]
  · simp [refers, bind, Except.bind]

/-- An update fails with an error of the database. -/
theorem upsertEventRow_error {db : Store.Database} {row : EventRow} {error : StoreError}
    (failed : upsertEventRow db row = .error error)
    : error = .sql := by
  unfold upsertEventRow at failed
  split at failed
  next =>
      cases failed
      rfl
  next =>
      split at failed <;> cases failed
      rfl

/-- The count of a replaced event fails with its payload only. -/
theorem count_error {externals : Store.Externals} {db : Store.Database} {id : Uuid}
    {error : StoreError}
    (failed : Store.semanticSearchableDocumentCountFromStoredEvent externals db id = .error error)
    : error = .json := by
  unfold Store.semanticSearchableDocumentCountFromStoredEvent at failed
  split at failed
  next => cases failed
  next =>
      split at failed <;> cases failed
      rfl

end Writers

-----------------------------------------------------------------------------------------
-- One event
-----------------------------------------------------------------------------------------

/-- What the importer without fast inserts makes of the outcome of an update. -/
def updateOutcome (store : ImportStore) (wasPresent : Bool)
    : Except StoreError ImportStore → Except StoreError (Bool × ImportStore)
  | .ok next => .ok (wasPresent, next)
  | .error (.providerEventConflict _) => .ok (true, store)
  | .error error => .error error

/-- What the importer with fast inserts makes of the outcome of an insert. -/
def insertOutcome (outcome : Except StoreError (Bool × ImportStore))
    : Except StoreError (Bool × ImportStore) :=
  outcome.map fun (inserted, next) => (!inserted, next)

/-- The two writers of an event with a key have one outcome just where the event is settled. Cases:
a conflict is found; the key is stored; the event takes a stored id or sequence number; it is new.
-/
theorem outcomes_eq_iff {externals : Store.Externals} {store : ImportStore} {event : Event}
    {key : String} (named : event.dedupeKey = some key) (legal : event.row.checked = true)
    : insertOutcome (store.insertEventIfAbsent externals event)
          = updateOutcome store (providerEventExists store key)
              (store.upsertEvent externals event)
        ↔ EventSettled store event := by
  have named' : event.row.dedupeKey = some key := named
  unfold EventSettled
  cases conflict : rejectConflictingKey store.database event.dedupeKey with
  | error error =>
      obtain ⟨found, rfl⟩ := Store.rejectConflictingKey_error conflict
      refine iff_of_false ?_ fun settled => nomatch settled.1
      rw [upsertEvent_conflict conflict]
      by_cases free : ∀ held ∈ store.events.rows, ¬ EventRow.Clash held event.row
      · rw [insertEventIfAbsent_free legal free]
        split
        next => simp [insertOutcome, updateOutcome, Except.map]
        next => simp [insertOutcome, updateOutcome, Except.map]
      · rw [insertEventIfAbsent_clash (by simpa using free), conflict]
        simp [insertOutcome, updateOutcome, Except.map]
  | ok _ =>
      cases stored : providerEventExists store key with
      | true =>
          have any : event.dedupeKey.any (providerEventExists store) = true := by
            simp [named, stored]
          refine iff_of_true ?_ ⟨rfl, .inl any⟩
          obtain ⟨id, found⟩ := Option.isSome_iff_exists.mp stored
          obtain ⟨held, search, _⟩ := Option.map_eq_some_iff.mp found
          have member : held ∈ store.events.rows := List.mem_of_find?_eq_some search
          have same : held.dedupeKey = some key := by simpa using List.find?_some search
          have clash : EventRow.Clash held event.row :=
            .inr (.inr ⟨by rw [same]; rfl, same.trans named'.symm⟩)
          rw [insertEventIfAbsent_clash ⟨held, member, clash⟩, conflict,
            upsertEvent_stored conflict any]
          rfl
      | false =>
          have unstored : event.dedupeKey.any (providerEventExists store) = false := by
            simp [named, stored]
          by_cases free : ∀ held ∈ store.events.rows, ¬ EventRow.Clash held event.row
          · refine iff_of_true ?_ ⟨rfl, .inr free⟩
            rw [insertEventIfAbsent_free legal free, upsertEvent_free legal conflict free]
            split <;> rfl
          · refine iff_of_false ?_ fun settled => settled.2.elim (by simp [unstored]) free
            rw [insertEventIfAbsent_clash (by simpa using free), conflict,
              upsertEvent_new conflict unstored]
            cases count : Store.semanticSearchableDocumentCountFromStoredEvent externals
                store.database event.id with
            | error error =>
                obtain rfl := count_error count
                simp [insertOutcome, updateOutcome, Except.map, bind, Except.bind]
            | ok previous =>
                cases written : upsertEventRow store.database event.row with
                | error error =>
                    obtain rfl := upsertEventRow_error written
                    simp [insertOutcome, updateOutcome, Except.map, bind, Except.bind]
                | ok events =>
                    simp [insertOutcome, updateOutcome, Except.map, bind, Except.bind, pure,
                      Except.pure]

/-- What a program makes of the outcome of a writer. -/
def writerResult (state : ImportState)
    : Except StoreError (Bool × ImportStore) → Except CaptureError Bool × ImportState
  | .ok (present, store) => (.ok present, { state with store := store })
  | .error error => (.error (.store error), state)

theorem writerResult_injective (state : ImportState) : Function.Injective (writerResult state) := by
  intro left right same
  match left, right with
  | .ok (_, _), .ok (_, _) =>
      simp only [writerResult, Prod.mk.injEq, Except.ok.injEq, ImportState.mk.injEq] at same
      rw [same.1, same.2.1]
  | .error _, .error _ =>
      simp only [writerResult, Prod.mk.injEq, Except.error.injEq, CaptureError.store.injEq] at same
      rw [same.1]
  | .ok (_, _), .error _ => simp [writerResult] at same
  | .error _, .ok (_, _) => simp [writerResult] at same

section Storing

variable {externals : Externals} {state : ImportState} {event : Event} {key : String}

/-- The fast way without a run. -/
theorem perform_insertEventFast_none
    : perform (insertEventFast externals none event) state
      = writerResult state
          (insertOutcome (state.store.insertEventIfAbsent externals.toExternals event)) := by
  unfold insertEventFast
  simp only [perform_bind, perform_get]
  cases state.store.insertEventIfAbsent externals.toExternals event <;> rfl

/-- The slow way without a run. -/
theorem perform_upsertEventSlow_none (named : event.dedupeKey = some key)
    : perform (upsertEventSlow externals none event) state
      = writerResult state (updateOutcome state.store (providerEventExists state.store key)
          (state.store.upsertEvent externals.toExternals event)) := by
  unfold upsertEventSlow
  simp only [perform_bind, perform_get, named, Option.any_some]
  cases state.store.upsertEvent externals.toExternals event with
  | ok _ => rfl
  | error error => cases error <;> rfl

/-- The event writers leave the runs. -/
theorem runs_insertEventFast_none
    : (perform (insertEventFast externals none event) state).2.store.runs = state.store.runs := by
  rw [perform_insertEventFast_none]
  unfold ImportStore.insertEventIfAbsent
  cases Store.insertEventIfAbsent externals.toExternals state.store.database event <;> rfl

theorem runs_upsertEventSlow_none (named : event.dedupeKey = some key)
    : (perform (upsertEventSlow externals none event) state).2.store.runs = state.store.runs := by
  rw [perform_upsertEventSlow_none named]
  unfold ImportStore.upsertEvent
  cases Store.upsertEvent externals.toExternals state.store.database event with
  | ok _ => rfl
  | error error => cases error <;> rfl

/-- The fast way with a run stores the run first. -/
theorem perform_insertEventFast_some (run : Run)
    : perform (insertEventFast externals (some run) event) state
      = match state.store.insertRunIfAbsent run with
        | .ok store => perform (insertEventFast externals none event) { state with store := store }
        | .error error => (.error (.store error), state) := by
  unfold insertEventFast
  rw [perform_bind, perform_executeStatement]
  cases state.store.insertRunIfAbsent run with
  | ok _ => simp only [perform_bind]
  | error _ => rfl

/-- The slow way with a run stores the run first. The key is looked up before. -/
theorem perform_upsertEventSlow_some (run : Run)
    : perform (upsertEventSlow externals (some run) event) state
      = match state.store.upsertRun run with
        | .ok store => perform (upsertEventSlow externals none event) { state with store := store }
        | .error error => (.error (.store error), state) := by
  unfold upsertEventSlow
  simp only [perform_bind, perform_get, perform_executeStatement]
  cases stored : state.store.upsertRun run with
  | ok next =>
      have same : providerEventExists next = providerEventExists state.store := by
        funext key
        simp [providerEventExists, Store.Database.eventIdByDedupeKey, ImportStore.database,
          events_of_upsertRun stored]
      simp only [same]
  | error _ => rfl

/-- Without a run, both ways do the same just where the event is settled. -/
theorem storeEvent_none_eq_iff (named : event.dedupeKey = some key)
    (legal : event.row.checked = true)
    : perform (insertEventFast externals none event) state
          = perform (upsertEventSlow externals none event) state
        ↔ EventSettled state.store event := by
  rw [perform_insertEventFast_none, perform_upsertEventSlow_none named,
    (writerResult_injective state).eq_iff, outcomes_eq_iff named legal]

/-- A run is accepted where it gets stored. -/
theorem runAccepted_of_upsertRun {store next : ImportStore} {run : Run}
    (stored : store.upsertRun run = .ok next)
    : RunAccepted store (some run) := by
  unfold ImportStore.upsertRun at stored
  split at stored
  next refers => exact .inr refers
  next => cases stored

/-- Both ways of storing a settled run and event do the same. -/
theorem storeEvent_eq_of_settled (named : event.dedupeKey = some key)
    (legal : event.row.checked = true) {run : Option Run}
    (settled : StoringSettled state.store run event)
    : perform (storeEvent externals true run event) state
      = perform (storeEvent externals false run event) state := by
  unfold storeEvent
  rw [if_pos rfl, if_neg (by simp)]
  cases run with
  | none => exact (storeEvent_none_eq_iff named legal).mpr (settled.2 trivial)
  | some run =>
      rw [perform_insertEventFast_some, perform_upsertEventSlow_some,
        insertRun_eq_upsertRun_iff.mpr settled.1]
      cases stored : state.store.upsertRun run with
      | error _ => rfl
      | ok next =>
          have event := settled.2 (runAccepted_of_upsertRun stored)
          exact (storeEvent_none_eq_iff named legal).mpr
            ((eventSettled_congr (events_of_upsertRun stored) _).mpr event)

/-- Where the run's references exist, both ways do the same only for a settled run and event. -/
theorem settled_of_storeEvent_eq (named : event.dedupeKey = some key)
    (legal : event.row.checked = true) {run : Option Run}
    (referred : ∀ new, run = some new → state.store.runReferencesHold new = true)
    (same
      : perform (storeEvent externals true run event) state
        = perform (storeEvent externals false run event) state)
    : StoringSettled state.store run event := by
  unfold storeEvent at same
  rw [if_pos rfl, if_neg (by simp)] at same
  cases run with
  | none => exact ⟨trivial, fun _ => (storeEvent_none_eq_iff named legal).mp same⟩
  | some run =>
      have refers := referred run rfl
      have stored
          : state.store.upsertRun run
            = .ok { state.store with runs := state.store.runs.put (state.store.upsertedRun run) } := by
        rw [ImportStore.upsertRun, if_pos refers]
      rw [perform_insertEventFast_some, perform_upsertEventSlow_some, stored] at same
      have settled : RunSettled state.store (some run) := by
        intro held found
        have present : state.store.runs.holds run.id = true := by simp [Keyed.holds, found]
        have inserted : state.store.insertRunIfAbsent run = .ok state.store := by
          rw [ImportStore.insertRunIfAbsent, if_pos present]
        rw [inserted] at same
        have runs := congrArg (·.2.store.runs) same
        simp only [runs_insertEventFast_none, runs_upsertEventSlow_none named] at runs
        have row := congrArg (·.find? run.id) runs
        simp only [found, Keyed.find?_put] at row
        rw [if_pos (by rfl)] at row
        exact ⟨refers, (Option.some.inj row).symm⟩
      refine ⟨settled, fun _ => ?_⟩
      rw [insertRun_eq_upsertRun_iff.mpr settled, stored] at same
      exact (eventSettled_congr (by rfl) _).mp ((storeEvent_none_eq_iff named legal).mp same)

end Storing

-----------------------------------------------------------------------------------------
-- One capture
-----------------------------------------------------------------------------------------

section Captures

variable {externals : Externals} {options : NormalizedProviderImportOptions}

/-- The options with one of the two ways of storing events. -/
def NormalizedProviderImportOptions.withFastEventInserts
    (options : NormalizedProviderImportOptions) (fastEventInserts : Bool)
    : NormalizedProviderImportOptions :=
  { options with fastEventInserts := fastEventInserts }

/-- The event to store for a capture has a key, and meets the checks of its table. -/
theorem prepared_event {capture : ProviderCaptureEnvelope} {lineNumber : Nat}
    {historyRecordId : Option Uuid} {state mid : ImportState} {summary : ProviderImportSummary}
    {run : Option Run} {event : Event}
    (prepared
      : perform (prepareCapture externals historyRecordId capture lineNumber) state
        = (.ok (summary, some (run, event)), mid))
    : ∃ key, event.dedupeKey = some key ∧ event.row.checked = true := by
  unfold prepareCapture at prepared
  obtain ⟨_, _, _, prepared⟩ := perform_bind_eq_ok prepared
  obtain ⟨⟨sessionId, counted⟩, _, _, prepared⟩ := perform_bind_eq_ok prepared
  cases content : capture.event with
  | none => simp [content] at prepared
  | some envelope =>
      simp only [content] at prepared
      obtain ⟨⟨storedRun, storedEvent⟩, _, made, same⟩ := perform_bind_eq_ok prepared
      simp only [perform_pure, Prod.mk.injEq, Except.ok.injEq, Option.some.injEq] at same
      obtain ⟨⟨_, _, rfl⟩, _⟩ := same
      unfold prepareEvent at made
      obtain ⟨existing, _, _, made⟩ := perform_bind_eq_ok made
      obtain ⟨_, _, _, made⟩ := perform_bind_eq_ok made
      obtain ⟨_, _, _, made⟩ := perform_bind_eq_ok made
      simp only [perform_pure, Prod.mk.injEq, Except.ok.injEq] at made
      obtain ⟨⟨_, rfl⟩, _⟩ := made
      exact ⟨_, rfl, rfl⟩

/-- The counts of a new event are not those of a present one. -/
theorem eventSummary_injective (summary : ProviderImportSummary)
    : Function.Injective fun wasPresent => summary.mergeFrom (eventSummary wasPresent) := by
  intro left right same
  have imported := congrArg ProviderImportSummary.importedEvents same
  cases left <;> cases right <;>
    simp [eventSummary, ProviderImportSummary.mergeFrom] at imported ⊢

theorem map_injective {ε α β : Type} {f : α → β} (injective : Function.Injective f)
    : Function.Injective (Except.map f : Except ε α → Except ε β) := by
  intro left right same
  cases left <;> cases right <;> simp only [Except.map, Except.ok.injEq, Except.error.injEq,
    reduceCtorEq] at same
  next => rw [same]
  next => rw [injective same]

/-- The import of a capture with an event, from the point where it stores the event. -/
theorem perform_importProviderCaptureLine (options : NormalizedProviderImportOptions)
    {capture : ProviderCaptureEnvelope} {lineNumber : Nat} {state mid : ImportState} {summary : ProviderImportSummary} {run : Option Run} {event : Event}
    (prepared
      : perform (prepareCapture externals options.historyRecordId capture lineNumber) state
        = (.ok (summary, some (run, event)), mid))
    : perform (importProviderCaptureLine externals options capture lineNumber) state
      = ((perform (storeEvent externals options.fastEventInserts run event) mid).1.map
          fun wasPresent => summary.mergeFrom (eventSummary wasPresent),
        (perform (storeEvent externals options.fastEventInserts run event) mid).2) := by
  unfold importProviderCaptureLine
  rw [perform_bind, prepared]
  simp only [bind_pure_comp, perform_map]

/-- Captures import alike in both ways where their run and event are settled. -/
def CaptureSettled (externals : Externals) (historyRecordId : Option Uuid) (state : ImportState)
    (lineNumber : Nat) (capture : ProviderCaptureEnvelope)
    : Prop :=
  ∀ summary run event mid,
    perform (prepareCapture externals historyRecordId capture lineNumber) state
      = (.ok (summary, some (run, event)), mid)
    → StoringSettled mid.store run event

theorem importProviderCaptureLine_eq_of_settled {capture : ProviderCaptureEnvelope}
    {lineNumber : Nat} {state : ImportState}
    (settled : CaptureSettled externals options.historyRecordId state lineNumber capture)
    : perform (importProviderCaptureLine externals (options.withFastEventInserts true) capture
          lineNumber) state
      = perform (importProviderCaptureLine externals (options.withFastEventInserts false) capture
          lineNumber) state := by
  match prepared
      : perform (prepareCapture externals options.historyRecordId capture lineNumber) state with
  | (.error error, mid) =>
      have prepared' (fast : Bool)
          : perform (prepareCapture externals (options.withFastEventInserts fast).historyRecordId
              capture lineNumber) state = (.error error, mid) := prepared
      unfold importProviderCaptureLine
      rw [perform_bind, perform_bind, prepared', prepared']
  | (.ok (summary, none), mid) =>
      have prepared' (fast : Bool)
          : perform (prepareCapture externals (options.withFastEventInserts fast).historyRecordId
              capture lineNumber) state = (.ok (summary, none), mid) := prepared
      unfold importProviderCaptureLine
      rw [perform_bind, perform_bind, prepared', prepared']
  | (.ok (summary, some (run, event)), mid) =>
      obtain ⟨key, named, legal⟩ := prepared_event prepared
      have same
          : perform (storeEvent externals true run event) mid
            = perform (storeEvent externals false run event) mid :=
        storeEvent_eq_of_settled named legal (settled summary run event mid prepared)
      rw [perform_importProviderCaptureLine (options.withFastEventInserts true) prepared,
        perform_importProviderCaptureLine (options.withFastEventInserts false) prepared]
      exact congrArg
        (fun stored : Except CaptureError Bool × ImportState =>
          (stored.1.map fun wasPresent => summary.mergeFrom (eventSummary wasPresent), stored.2))
        same

/-- Where the run's references exist, a capture with an event imports alike in both ways just where
its run and event are settled.
-/
theorem importProviderCaptureLine_eq_iff {capture : ProviderCaptureEnvelope} {lineNumber : Nat}
    {state mid : ImportState} {summary : ProviderImportSummary} {run : Option Run} {event : Event}
    (prepared
      : perform (prepareCapture externals options.historyRecordId capture lineNumber) state
        = (.ok (summary, some (run, event)), mid))
    (referred : ∀ new, run = some new → mid.store.runReferencesHold new = true)
    : perform (importProviderCaptureLine externals (options.withFastEventInserts true) capture
            lineNumber) state
          = perform (importProviderCaptureLine externals (options.withFastEventInserts false) capture
            lineNumber) state
        ↔ StoringSettled mid.store run event := by
  obtain ⟨key, named, legal⟩ := prepared_event prepared
  constructor
  · intro same
    rw [perform_importProviderCaptureLine (options.withFastEventInserts true) prepared,
      perform_importProviderCaptureLine (options.withFastEventInserts false) prepared] at same
    have results := congrArg Prod.fst same
    have states := congrArg Prod.snd same
    have stored
        : perform (storeEvent externals true run event) mid
          = perform (storeEvent externals false run event) mid :=
      Prod.ext (map_injective (eventSummary_injective summary) results) states
    exact settled_of_storeEvent_eq named legal referred stored
  · intro settled
    refine importProviderCaptureLine_eq_of_settled fun other otherRun otherEvent otherMid again => ?_
    rw [prepared] at again
    simp only [Prod.mk.injEq, Except.ok.injEq, Option.some.injEq] at again
    obtain ⟨⟨rfl, rfl, rfl⟩, rfl⟩ := again
    exact settled

-----------------------------------------------------------------------------------------
-- Imports
-----------------------------------------------------------------------------------------

/-- The line's run and event are settled when its unit starts in the state. -/
def LineSettled (externals : Externals) (historyRecordId : Option Uuid) (state : ImportState)
    (line : Nat × ProviderCaptureEnvelope)
    : Prop :=
  CaptureSettled externals historyRecordId (state.prepared (externals.captureLength line.2)) line.1
    line.2

/-- Each capture that an import gets to is settled when it is reached. -/
def CapturesSettled (externals : Externals) (options : NormalizedProviderImportOptions)
    (captures : List (Nat × ProviderCaptureEnvelope)) (state : ImportState)
    : Prop :=
  AllReached (captureUnit externals options) (LineSettled externals options.historyRecordId)
    captures state

/-- The loop over settled captures does the same in both ways. -/
theorem importCaptures_eq_of_settled {captures : List (Nat × ProviderCaptureEnvelope)}
    {state : ImportState}
    (settled : CapturesSettled externals (options.withFastEventInserts true) captures state)
    : perform (importCaptures externals (options.withFastEventInserts true) captures) state
      = perform (importCaptures externals (options.withFastEventInserts false) captures) state := by
  refine perform_forM_congr (fun line _ state meets => ?_) settled
  have same
      : perform (importProviderCaptureLine externals (options.withFastEventInserts true) line.2
          line.1) (state.prepared (externals.captureLength line.2))
        = perform (importProviderCaptureLine externals (options.withFastEventInserts false) line.2
          line.1) (state.prepared (externals.captureLength line.2)) :=
    importProviderCaptureLine_eq_of_settled meets
  simp only [captureUnit, perform_importUnit, same]

/-- The captures of an import behind its filter. -/
def filtered (normalization : ProviderNormalizationResult) : ProviderNormalizationResult :=
  filterProviderCaptureLinesWithoutRealSessionMessages normalization

/-- Each capture that an import with fast inserts gets to is settled when it is reached. -/
def ImportSettled (externals : Externals) (options : NormalizedProviderImportOptions)
    (store : ImportStore) (normalization : ProviderNormalizationResult)
    : Prop :=
  CapturesSettled externals (options.withFastEventInserts true) (filtered normalization).captures
    ((initialState store (filtered normalization).summary).begun
      (hasTransactions options (filtered normalization).captures
        (allFilesTouched externals (filtered normalization))))

/-- An import of settled captures has one result, and leaves one store, in both ways. -/
theorem importNormalizedProviderCaptures_eq_of_settled {store : ImportStore}
    {normalization : ProviderNormalizationResult}
    (settled : ImportSettled externals options store normalization)
    : importNormalizedProviderCaptures externals (options.withFastEventInserts true) store
        normalization
      = importNormalizedProviderCaptures externals (options.withFastEventInserts false) store
        normalization := by
  have captures := importCaptures_eq_of_settled settled
  unfold importNormalizedProviderCaptures
  dsimp only
  split
  next => rfl
  next =>
      simp only [perform_persistProviderCaptureLines]
      have same := captures
      unfold filtered at same
      rw [show hasTransactions (options.withFastEventInserts true) = hasTransactions options from rfl,
        show hasTransactions (options.withFastEventInserts false) = hasTransactions options from rfl,
        same]
      rfl

/-- Fast and slow imports. Where every capture that the import gets to is settled, both have one
result and leave one store. The import of one capture whose run refers to existing rows is the same
in both ways just where the capture is settled.
-/
theorem import_modesAgree (externals : Externals) (options : NormalizedProviderImportOptions)
    : (∀ (store : ImportStore) (normalization : ProviderNormalizationResult),
        ImportSettled externals options store normalization
        → importNormalizedProviderCaptures externals (options.withFastEventInserts true) store
            normalization
          = importNormalizedProviderCaptures externals (options.withFastEventInserts false) store
            normalization)
      ∧ ∀ (capture : ProviderCaptureEnvelope) (lineNumber : Nat) (state mid : ImportState)
          (summary : ProviderImportSummary) (run : Option Run) (event : Event),
          perform (prepareCapture externals options.historyRecordId capture lineNumber) state
            = (.ok (summary, some (run, event)), mid)
          → (∀ new, run = some new → mid.store.runReferencesHold new = true)
          → (perform (importProviderCaptureLine externals (options.withFastEventInserts true)
                capture lineNumber) state
              = perform (importProviderCaptureLine externals (options.withFastEventInserts false)
                capture lineNumber) state
            ↔ StoringSettled mid.store run event) :=
  ⟨fun _ _ settled => importNormalizedProviderCaptures_eq_of_settled settled,
    fun _ _ _ _ _ _ _ prepared referred => importProviderCaptureLine_eq_iff prepared referred⟩

/-- Where no key is stored, none conflicts. -/
theorem rejectConflictingKey_of_no_keys {db : Store.Database} (keys : db.dedupeKeys = [])
    (dedupeKey : Option String)
    : rejectConflictingKey db dedupeKey = .ok () := by
  unfold rejectConflictingKey
  cases dedupeKey with
  | none => rfl
  | some key =>
      have agrees : Store.rejectProviderEventHashConflict [] key = .ok () := by
        unfold Store.rejectProviderEventHashConflict
        cases Store.parseProviderEventDedupeKey key with
        | none => rfl
        | some parsed =>
            simp only [Store.rejectProviderEventHashConflictFromRows, Store.keysInRange]
            split <;> rfl
      simp [keys, agrees]

instance (store : ImportStore) (event : Event) : Decidable (EventSettled store event) :=
  decidable_of_iff
    ((rejectConflictingKey store.database event.dedupeKey).isOk = true
      ∧ (event.dedupeKey.any (providerEventExists store) = true
        ∨ ∀ held ∈ store.events.rows, ¬ EventRow.Clash held event.row))
    (by
      unfold EventSettled
      cases rejectConflictingKey store.database event.dedupeKey <;> simp [Except.isOk, Except.toBool])

/-- Whether a capture comes to an event without a run, for which a check holds. -/
def preparesEvent (externals : Externals) (historyRecordId : Option Uuid) (state : ImportState)
    (line : Nat × ProviderCaptureEnvelope) (check : ImportState → Event → Bool)
    : Bool :=
  match perform (prepareCapture externals historyRecordId line.2 line.1) state with
  | (.ok (_, some (none, event)), mid) => check mid event
  | _ => false

theorem exists_of_preparesEvent {externals : Externals} {historyRecordId : Option Uuid}
    {state : ImportState} {line : Nat × ProviderCaptureEnvelope}
    {check : ImportState → Event → Bool}
    (prepares : preparesEvent externals historyRecordId state line check = true)
    : ∃ summary event mid,
        perform (prepareCapture externals historyRecordId line.2 line.1) state
          = (.ok (summary, some (none, event)), mid)
        ∧ check mid event = true := by
  unfold preparesEvent at prepares
  split at prepares
  next summary event mid prepared => exact ⟨summary, event, mid, prepared, prepares⟩
  next => cases prepares

/-- The first three messages of a session. -/
def firstMessage : ProviderCaptureEnvelope := sessionCapture .codex "a" none none (messageEvent 1 "h1")

def secondMessage : ProviderCaptureEnvelope := sessionCapture .codex "a" none none (messageEvent 2 "h2")

def thirdMessage : ProviderCaptureEnvelope := sessionCapture .codex "a" none none (messageEvent 3 "h3")

/-- A store with two messages of the session. -/
def startedStore : ImportStore :=
  (importNormalizedProviderCaptures epochExternals adapterOptions .empty
    (numberedCaptures [firstMessage, secondMessage])).2

/-- What an adapter reads of the session later on. -/
def laterCaptures : ProviderNormalizationResult := numberedCaptures [firstMessage, thirdMessage]

/-- The state in which an import of `laterCaptures` into the store gets to the first of them. -/
def laterState : ImportState := (initialState startedStore {}).begun true

/-- The import of `laterCaptures` into the store. -/
def laterImport (fast : Bool) : Except CaptureError ProviderImportSummary × ImportStore :=
  importNormalizedProviderCaptures epochExternals (adapterOptions.withFastEventInserts fast)
    startedStore laterCaptures

/-- Whether the line's event is settled when its unit starts. -/
def settlesEvent (state : ImportState) (line : Nat × ProviderCaptureEnvelope) : Bool :=
  preparesEvent epochExternals none (state.prepared (epochExternals.captureLength line.2)) line
    fun mid event => decide (EventSettled mid.store event)

theorem settlesEvent_settled {state : ImportState} {line : Nat × ProviderCaptureEnvelope}
    (settles : settlesEvent state line = true)
    : ∃ summary event mid,
        perform (prepareCapture epochExternals none line.2 line.1)
            (state.prepared (epochExternals.captureLength line.2))
          = (.ok (summary, some (none, event)), mid)
        ∧ StoringSettled mid.store none event := by
  obtain ⟨summary, event, mid, prepared, settled⟩ := exists_of_preparesEvent settles
  exact ⟨summary, event, mid, prepared, trivial, fun _ => of_decide_eq_true settled⟩

theorem settlesEvent_lineSettled {state : ImportState} {line : Nat × ProviderCaptureEnvelope}
    (settles : settlesEvent state line = true)
    : LineSettled epochExternals none state line := by
  obtain ⟨summary, event, mid, prepared, settled⟩ := settlesEvent_settled settles
  intro otherSummary run otherEvent otherMid again
  have same := again.symm.trans prepared
  simp only [Prod.mk.injEq, Except.ok.injEq, Option.some.injEq] at same
  obtain ⟨⟨_, rfl, rfl⟩, rfl⟩ := same
  exact settled

/-- Both captures are settled, and one of them is new to the store. -/
theorem laterCaptures_evaluated
    : AllReached (captureUnit epochExternals (adapterOptions.withFastEventInserts true))
          (fun state line => settlesEvent state line = true) laterCaptures.captures laterState
      ∧ startedStore.events.rows.length = 2
      ∧ (laterImport true).2.events.rows.length = 3 := by
  decide +kernel

theorem laterCaptures_filtered : filtered laterCaptures = laterCaptures := by
  unfold filtered filterProviderCaptureLinesWithoutRealSessionMessages
  dsimp only
  rw [if_pos (by decide +kernel)]

/-- The session goes on: a message comes again, and the next one gets stored behind it. -/
theorem laterCaptures_modesAgree
    : laterImport true = laterImport false
      ∧ startedStore.events.rows.length = 2
      ∧ (laterImport true).2.events.rows.length = 3
      ∧ perform (importProviderCaptureLine epochExternals (adapterOptions.withFastEventInserts true)
            firstMessage 1) (laterState.prepared 1000)
        = perform (importProviderCaptureLine epochExternals
            (adapterOptions.withFastEventInserts false) firstMessage 1) (laterState.prepared 1000) := by
  obtain ⟨settle, started, stored⟩ := laterCaptures_evaluated
  refine ⟨?_, started, stored, ?_⟩
  · refine (import_modesAgree epochExternals adapterOptions).1 startedStore laterCaptures ?_
    unfold ImportSettled
    rw [laterCaptures_filtered]
    exact settle.imp fun _ _ settles => settlesEvent_lineSettled settles
  · obtain ⟨summary, event, mid, prepared, settled⟩ := settlesEvent_settled settle.1
    exact ((import_modesAgree epochExternals adapterOptions).2 firstMessage 1 _ mid
      summary none event prepared (by simp)).mpr settled

/-- The message comes again with another hash: with fast inserts the import fails, and without them
it skips the message.
-/
theorem rehashedMessage_modes_differ
    : (importNormalizedProviderCaptures epochExternals (adapterOptions.withFastEventInserts true)
          .empty
          (numberedCaptures
            [firstMessage, sessionCapture .codex "a" none none (messageEvent 1 "h2")])).1.isOk
        = false
      ∧ (importNormalizedProviderCaptures epochExternals (adapterOptions.withFastEventInserts false)
          .empty
          (numberedCaptures
            [firstMessage, sessionCapture .codex "a" none none (messageEvent 1 "h2")])).1.isOk
        = true := by
  decide +kernel

end Captures

end CtxRemote.Capture
