import Mathlib.Data.List.TakeWhile

/-! The first block of a list: what follows its first opening element, up to the next element that ends
a block.
-/

namespace CtxRemote.Library

universe u

variable {α : Type u} (opens ends : α → Bool)

/-- The elements up to the first opening one, and that one. -/
def uptoBlock (xs : List α) : List α :=
  xs.takeWhile (fun x => !opens x) ++ (xs.dropWhile fun x => !opens x).take 1

/-- The elements of the first block. -/
def firstBlock (xs : List α) : List α :=
  (xs.dropWhile fun x => !opens x).tail.takeWhile fun x => !ends x

/-- The elements behind the first block. -/
def beyondBlock (xs : List α) : List α :=
  (xs.dropWhile fun x => !opens x).tail.dropWhile fun x => !ends x

theorem block_parts (xs : List α)
    : uptoBlock opens xs ++ (firstBlock opens ends xs ++ beyondBlock opens ends xs) = xs := by
  unfold uptoBlock firstBlock beyondBlock
  rw [List.takeWhile_append_dropWhile, List.append_assoc, ← List.drop_one, List.take_append_drop,
    List.takeWhile_append_dropWhile]

variable {opens ends} {xs : List α}

/-- No element opens a block. -/
theorem uptoBlock_of_none (none : ∀ x ∈ xs, opens x = false)
    : uptoBlock opens xs = xs ∧ firstBlock opens ends xs = [] ∧ beyondBlock opens ends xs = [] := by
  have left : (xs.dropWhile fun x => !opens x) = [] :=
    List.dropWhile_eq_nil_iff.mpr fun x member => by rw [none x member]; rfl
  have taken : (xs.takeWhile fun x => !opens x) = xs :=
    List.takeWhile_eq_self_iff.mpr fun x member => by rw [none x member]; rfl
  unfold uptoBlock firstBlock beyondBlock
  rw [left, taken]
  exact ⟨List.append_nil _, rfl, rfl⟩

/-- What stands before the first block, where there is one. -/
theorem uptoBlock_of_any (opened : ∃ x ∈ xs, opens x = true)
    : ∃ front header, uptoBlock opens xs = front ++ [header] ∧ opens header = true
        ∧ ∀ x ∈ front, opens x = false := by
  obtain ⟨x, member, opening⟩ := opened
  cases left : xs.dropWhile fun x => !opens x with
  | nil =>
      have closed := List.dropWhile_eq_nil_iff.mp left x member
      rw [opening] at closed
      cases closed
  | cons header rest =>
      refine ⟨xs.takeWhile fun x => !opens x, header, ?_, ?_, fun x member => ?_⟩
      · unfold uptoBlock
        rw [left]
        rfl
      · have first := List.head?_dropWhile_not (fun x => !opens x) xs
        rw [left] at first
        simpa using first
      · simpa using List.mem_takeWhile_imp member

theorem ends_of_mem_firstBlock {x : α} (member : x ∈ firstBlock opens ends xs) : ends x = false := by
  simpa using List.mem_takeWhile_imp member

/-- What stands behind the first block starts with the end of a block. -/
theorem beyondBlock_cases
    : beyondBlock opens ends xs = []
      ∨ ∃ header rest, beyondBlock opens ends xs = header :: rest ∧ ends header = true := by
  cases left : beyondBlock opens ends xs with
  | nil => exact .inl rfl
  | cons header rest =>
      refine .inr ⟨header, rest, rfl, ?_⟩
      have first := List.head?_dropWhile_not (fun x => !ends x) (xs.dropWhile fun x => !opens x).tail
      unfold beyondBlock at left
      rw [left] at first
      simpa using first

end CtxRemote.Library
