import Mathlib.Data.List.TakeWhile

/-! Splitting a list at a separator, into at most a given number of parts. -/

namespace CtxRemote.Library

universe u

variable {α : Type u} [DecidableEq α] {separator : α}

/-- At most `limit` parts, split at the first separators; the last part is what remains. -/
def splitn (separator : α) : Nat → List α → List (List α)
  | 0, _ => []
  | 1, text => [text]
  | limit + 2, text =>
      match text.dropWhile (· ≠ separator) with
      | [] => [text]
      | _ :: after => text.takeWhile (· ≠ separator) :: splitn separator (limit + 1) after

/-- A part without separators before a separator is split off. -/
theorem splitn_append {before after : List α} (free : separator ∉ before) (limit : Nat)
    : splitn separator (limit + 2) (before ++ separator :: after)
      = before :: splitn separator (limit + 1) after := by
  have whole : ∀ c ∈ before, decide (c ≠ separator) = true :=
    fun c member => decide_eq_true fun same => free (same ▸ member)
  rw [splitn, List.dropWhile_append_of_pos whole, List.takeWhile_append_of_pos whole]
  simp

/-- A part that something follows has no separator. -/
theorem not_mem_of_splitn {limit : Nat} {text part : List α} {rest : List (List α)}
    (split : splitn separator limit text = part :: rest) (more : rest ≠ [])
    : separator ∉ part := by
  match limit, split with
  | 1, split => exact absurd (List.cons.inj split).2.symm more
  | limit + 2, split =>
      unfold splitn at split
      cases dropped : text.dropWhile (· ≠ separator) with
      | nil =>
          rw [dropped] at split
          exact absurd (List.cons.inj split).2.symm more
      | cons _ after =>
          rw [dropped] at split
          obtain ⟨rfl, -⟩ := List.cons.inj split
          intro member
          simpa using List.mem_takeWhile_imp member

/-- What follows the first part is split again. -/
theorem splitn_tail {limit : Nat} {text part : List α} {rest : List (List α)}
    (split : splitn separator limit text = part :: rest) (more : rest ≠ [])
    : ∃ smaller after, splitn separator smaller after = rest := by
  match limit, split with
  | 1, split => exact absurd (List.cons.inj split).2.symm more
  | limit + 2, split =>
      unfold splitn at split
      cases dropped : text.dropWhile (· ≠ separator) with
      | nil =>
          rw [dropped] at split
          exact absurd (List.cons.inj split).2.symm more
      | cons _ after =>
          rw [dropped] at split
          exact ⟨limit + 1, after, (List.cons.inj split).2⟩

end CtxRemote.Library
