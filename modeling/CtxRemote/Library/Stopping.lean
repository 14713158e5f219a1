import Mathlib.Data.List.Infix

/-! A loop that folds over a list until it has enough: which elements it reads, and what it makes of two
lists one behind the other.
-/

namespace CtxRemote.Library

universe u v

variable {α : Type u} {β : Type v} (step : β → α → β) (enough : β → Bool)

/-- The fold that stops behind a step that has enough. -/
def stopping : β → List α → β
  | state, [] => state
  | state, x :: rest => if enough (step state x) then step state x else stopping (step state x) rest

/-- The elements that the loop reads. -/
def readUntil : β → List α → List α
  | _, [] => []
  | state, x :: rest => x :: if enough (step state x) then [] else readUntil (step state x) rest

variable {step enough}

/-- The loop is the fold over what it reads, by induction on the list. -/
theorem stopping_eq_foldl (state : β) (xs : List α)
    : stopping step enough state xs = (readUntil step enough state xs).foldl step state := by
  induction xs generalizing state with
  | nil => rfl
  | cons x rest ih =>
      rw [stopping, readUntil, List.foldl_cons]
      split
      next => rfl
      next => exact ih (step state x)

theorem readUntil_isPrefix (state : β) (xs : List α) : readUntil step enough state xs <+: xs := by
  induction xs generalizing state with
  | nil => exact List.prefix_refl []
  | cons x rest ih =>
      apply (List.prefix_cons_inj x).mpr
      split
      next => exact List.nil_prefix
      next => exact ih (step state x)

/-- A loop without enough has read the whole list. -/
theorem readUntil_of_not_enough {state : β} {xs : List α}
    (short : enough (stopping step enough state xs) = false) : readUntil step enough state xs = xs := by
  induction xs generalizing state with
  | nil => rfl
  | cons x rest ih =>
      rw [stopping] at short
      rw [readUntil]
      split at short
      next full => exact absurd full (by simp [short])
      next more => rw [if_neg more, ih short]

/-- The loop stops as soon as it has enough: it does not on less than it reads. -/
theorem not_enough_of_isPrefix {state : β} {xs shorter : List α} (some' : enough state = false)
    (part : shorter <+: readUntil step enough state xs)
    (strict : shorter ≠ readUntil step enough state xs) : enough (shorter.foldl step state) = false := by
  induction xs generalizing state shorter with
  | nil => exact absurd (List.prefix_nil.mp part) strict
  | cons x rest ih =>
      cases shorter with
      | nil => exact some'
      | cons y shorter =>
          rw [readUntil] at part strict
          obtain ⟨rfl, part⟩ := List.cons_prefix_cons.mp part
          have strict := fun same => strict (congrArg (y :: ·) same)
          split at part
          next full =>
              rw [if_pos full] at strict
              exact absurd (List.prefix_nil.mp part) strict
          next more =>
              rw [if_neg more] at strict
              rw [List.foldl_cons]
              exact ih (Bool.eq_false_iff.mpr more) part strict

/-- A loop without enough goes on with the next list. -/
theorem stopping_append {state : β} {xs : List α} (ys : List α)
    (short : enough (stopping step enough state xs) = false)
    : stopping step enough state (xs ++ ys)
      = stopping step enough (stopping step enough state xs) ys := by
  induction xs generalizing state with
  | nil => rfl
  | cons x rest ih =>
      rw [stopping] at short
      rw [List.cons_append, stopping, stopping]
      split at short
      next full => exact absurd full (by simp [short])
      next more =>
          rw [if_neg more, if_neg more]
          exact ih short

/-- A loop with enough does not see what is behind what it read. -/
theorem stopping_append_of_enough {state : β} {xs : List α} (ys : List α) (some' : enough state = false)
    (full : enough (stopping step enough state xs) = true)
    : stopping step enough state (xs ++ ys) = stopping step enough state xs := by
  induction xs generalizing state with
  | nil => exact absurd full (by simp [stopping, some'])
  | cons x rest ih =>
      rw [stopping] at full
      rw [List.cons_append, stopping, stopping]
      split at full
      next now => rw [if_pos now, if_pos now]
      next later =>
          rw [if_neg later, if_neg later]
          exact ih (Bool.eq_false_iff.mpr later) full

end CtxRemote.Library
