import CtxRemote.Library.Transition
import CtxRemote.Store.Events

/-! Sequences of event writes. One inversion lemma says what a write does to the database; the
invariants of the projection and of the cached count are derived from it.
-/

namespace CtxRemote.Store
open CtxRemote.Library
open CtxRemote.Turso (trim Visibility SyncState)

/-- A call of one of the two writers. -/
inductive EventWrite where
  | upsert (event : Event)
  | insert (event : Event)

namespace EventWrite

def event : EventWrite → Event
  | upsert event => event
  | insert event => event

/-- The database after a call; a failed call leaves it as it was. -/
def perform (externals : Externals) (db : Database) : EventWrite → Database
  | upsert event =>
      match upsertEvent externals db event with
      | .ok (_, next) => next
      | .error _ => db
  | insert event =>
      match insertEventIfAbsent externals db event with
      | .ok (_, next) => next
      | .error _ => db

/-- Whether the call gets to store its event: no conflict is found, no event has the dedupe key, and
the constraints of the table hold.
-/
def accepted (externals : Externals) (db : Database) : EventWrite → Bool
  | upsert event =>
      match upsertPlan externals db event with
      | .ok (.inr _) => true
      | _ => false
  | insert event =>
      match insertEventRowOrIgnore db event.row with
      | .ok (some _) => true
      | _ => false

/-- Every write is possible in every database. -/
def step (externals : Externals) (db : Database) (write : EventWrite) : Option Database :=
  some (write.perform externals db)

/-- A write that is not accepted changes nothing. -/
theorem perform_refused {externals : Externals} {db : Database} {write : EventWrite}
    (refused : write.accepted externals db = false)
    : write.perform externals db = db := by
  cases write with
  | upsert event =>
      match plan : upsertPlan externals db event with
      | .ok (.inr _) => simp [accepted, plan] at refused
      | .ok (.inl _) => simp [perform, upsertEvent, plan, bind, Except.bind, pure, Except.pure]
      | .error _ => simp [perform, upsertEvent, plan, bind, Except.bind]
  | insert event =>
      match inserted : insertEventRowOrIgnore db event.row with
      | .ok (some _) => simp [accepted, inserted] at refused
      | .ok none =>
          cases rejected : rejectConflictingKey db event.dedupeKey with
          | ok _ => simp [perform, insertEventIfAbsent, inserted, rejected, bind, Except.bind, pure,
              Except.pure]
          | error _ => simp [perform, insertEventIfAbsent, inserted, rejected, bind, Except.bind]
      | .error _ => simp [perform, insertEventIfAbsent, inserted, bind, Except.bind]

/-- An updating insert that succeeds meets the constraints and leaves the other rows. -/
theorem rows_of_upsertEventRow {db : Database} {row : EventRow} {events : EventTable}
    (written : upsertEventRow db row = .ok events)
    : row.checked ∧ db.references.hold row
      ∧ events.rows = db.events.others (·.id) row.id ++ [row] := by
  unfold upsertEventRow at written
  split at written
  next => cases written
  next legal =>
      split at written
      next => cases written
      next updated =>
          cases written
          simp only [Bool.or_eq_true, Bool.not_eq_true', not_or, Bool.not_eq_false] at legal
          exact ⟨legal.1, legal.2, Table.upsert?_eq_some updated⟩

/-- An ignoring insert that adds a row meets the constraints, and the row's id is new. -/
theorem rows_of_insertEventRowOrIgnore {db : Database} {row : EventRow} {events : EventTable}
    (written : insertEventRowOrIgnore db row = .ok (some events))
    : row.checked ∧ db.references.hold row ∧ db.eventById row.id = none
      ∧ events.rows = db.events.others (·.id) row.id ++ [row] := by
  unfold insertEventRowOrIgnore at written
  split at written
  next => cases written
  next legal =>
      split at written
      next => cases written
      next refers =>
          simp only [Except.ok.injEq, Option.some.injEq] at written
          subst written
          simp only [Bool.or_eq_true, Bool.not_eq_true', not_or, Bool.not_eq_false,
            List.any_eq_true, decide_eq_true_eq, not_exists, not_and] at legal
          have fresh : ∀ held ∈ db.events.rows, held.id ≠ row.id :=
            fun held member same => legal.2 held member (EventRow.clash_of_id held row same)
          refine ⟨legal.1, by simpa using refers, ?_, ?_⟩
          · simpa [Database.eventById] using fresh
          · rw [Table.insertOrIgnore_free legal.2, Table.others, List.filter_eq_self.mpr]
            simpa using fresh

/-- What an accepted write does. The event's row replaces the one with its id; the projection loses
that event's rows (an insert of a new event keeps all rows) and gains the new ones; the cached count
is adjusted from the count of the replaced row.
-/
theorem perform_accepted {externals : Externals} {db : Database} {write : EventWrite}
    (accepted : write.accepted externals db = true)
    : ∃ previous events kept,
        semanticSearchableDocumentCountFromStoredEvent externals db write.event.id = .ok previous
        ∧ write.event.row.checked ∧ db.references.hold write.event.row
        ∧ events.rows = db.events.others (·.id) write.event.id ++ [write.event.row]
        ∧ (kept = db.projection.filter (fun row => row.eventId ≠ write.event.id)
          ∨ (kept = db.projection ∧ db.eventById write.event.id = none))
        ∧ write.perform externals db
          = adjustSemanticSearchableItemStats
              { db with
                events := events
                projection := kept ++ insertedSearchRows externals write.event.id write.event }
              previous (semanticSearchableDocumentCountForEvent write.event) := by
  cases write with
  | upsert event =>
      unfold EventWrite.accepted at accepted
      rcases plan : upsertPlan externals db event with _ | (_ | ⟨previous, events⟩)
      next => simp [plan] at accepted
      next => simp [plan] at accepted
      next =>
          have done := plan
          unfold upsertPlan at plan
          cases rejected : rejectConflictingKey db event.dedupeKey with
          | error _ => simp [rejected, bind, Except.bind] at plan
          | ok _ =>
              simp only [rejected, bind, Except.bind] at plan
              split at plan
              next => cases plan
              next =>
                  cases count : semanticSearchableDocumentCountFromStoredEvent externals db
                      event.id with
                  | error _ => simp [count] at plan
                  | ok found =>
                      cases written : upsertEventRow db event.row with
                      | error _ => simp [count, written] at plan
                      | ok table =>
                          simp only [count, written, pure, Except.pure, Except.ok.injEq,
                            Sum.inr.injEq, Prod.mk.injEq] at plan
                          obtain ⟨rfl, rfl⟩ := plan
                          obtain ⟨legal, refers, rows⟩ := rows_of_upsertEventRow written
                          refine ⟨found, table, _, count, legal, refers, rows, .inl rfl, ?_⟩
                          simp only [perform, upsertEvent, done, bind, Except.bind, pure,
                            Except.pure]
                          rfl
  | insert event =>
      unfold EventWrite.accepted at accepted
      rcases written : insertEventRowOrIgnore db event.row with _ | (_ | events)
      next => simp [written] at accepted
      next => simp [written] at accepted
      next =>
          obtain ⟨legal, refers, fresh, rows⟩ := rows_of_insertEventRowOrIgnore written
          refine ⟨0, events, db.projection, ?_, legal, refers, rows, .inr ⟨rfl, fresh⟩, ?_⟩
          · have absent : db.eventById event.id = none := fresh
            simp [EventWrite.event, semanticSearchableDocumentCountFromStoredEvent, absent]
          · simp only [perform, insertEventIfAbsent, written, bind, Except.bind, pure,
              Except.pure]
            rfl

end EventWrite

-----------------------------------------------------------------------------------------
-- What the adjustment of the cached count leaves alone
-----------------------------------------------------------------------------------------

section Adjust

variable (db : Database) (previous current : Nat)

@[simp] theorem references_adjustStats
    : (adjustSemanticSearchableItemStats db previous current).references = db.references := by
  unfold adjustSemanticSearchableItemStats refreshSemanticSearchableItemStats
  split
  next => rfl
  next => split <;> rfl

@[simp] theorem events_adjustStats
    : (adjustSemanticSearchableItemStats db previous current).events = db.events := by
  unfold adjustSemanticSearchableItemStats refreshSemanticSearchableItemStats
  split
  next => rfl
  next => split <;> rfl

@[simp] theorem projection_adjustStats
    : (adjustSemanticSearchableItemStats db previous current).projection = db.projection := by
  unfold adjustSemanticSearchableItemStats refreshSemanticSearchableItemStats
  split
  next => rfl
  next => split <;> rfl

end Adjust

end CtxRemote.Store
