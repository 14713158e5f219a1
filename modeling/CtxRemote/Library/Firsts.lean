import Mathlib.Data.Finset.Card
import Mathlib.Data.Finset.Dedup

/-! The elements of a list in the order of their first occurrences, as a loop collects them: each one
once, or all of them, and up to a number where the loop stops.
-/

namespace CtxRemote.Library

universe u

variable {α : Type u} [DecidableEq α] (once : Bool)

/-- One more element, unless each is wanted once and it is there. -/
def addFirst (kept : List α) (x : α) : List α := if once ∧ x ∈ kept then kept else kept ++ [x]

/-- The first elements of a list. -/
def firsts (xs : List α) : List α := xs.foldl (addFirst once) []

/-- The loop that stops when it has so many. -/
def fill (limit : Nat) : List α → List α → List α
  | kept, [] => kept
  | kept, x :: rest =>
      let kept := addFirst once kept x
      if limit ≤ kept.length then kept else fill limit kept rest

variable {once}

theorem isPrefix_addFirst (kept : List α) (x : α) : kept <+: addFirst once kept x := by
  unfold addFirst
  split
  next => exact List.prefix_refl kept
  next => exact List.prefix_append kept [x]

theorem length_addFirst_le (kept : List α) (x : α) : (addFirst once kept x).length ≤ kept.length + 1 := by
  unfold addFirst
  split
  next => exact Nat.le_succ _
  next => rw [List.length_append, List.length_singleton]

theorem mem_addFirst {kept : List α} {x y : α} : y ∈ addFirst once kept x ↔ y ∈ kept ∨ y = x := by
  unfold addFirst
  split
  next there =>
      constructor
      · exact .inl
      · intro either
        rcases either with member | same
        · exact member
        · exact same ▸ there.2
  next => rw [List.mem_append, List.mem_singleton]

theorem isPrefix_foldl_addFirst (kept xs : List α) : kept <+: xs.foldl (addFirst once) kept := by
  induction xs generalizing kept with
  | nil => exact List.prefix_refl kept
  | cons x rest ih => exact (isPrefix_addFirst kept x).trans (ih _)

theorem mem_foldl_addFirst {kept xs : List α} {y : α}
    : y ∈ xs.foldl (addFirst once) kept ↔ y ∈ kept ∨ y ∈ xs := by
  induction xs generalizing kept with
  | nil => simp
  | cons x rest ih => rw [List.foldl_cons, ih, mem_addFirst, List.mem_cons, or_assoc]

theorem nodup_foldl_addFirst {kept xs : List α} (distinct : kept.Nodup)
    : (xs.foldl (addFirst true) kept).Nodup := by
  induction xs generalizing kept with
  | nil => exact distinct
  | cons x rest ih =>
      apply ih
      unfold addFirst
      split
      next => exact distinct
      next absent =>
          have fresh : x ∉ kept := fun there => absent ⟨rfl, there⟩
          exact distinct.append (List.nodup_singleton x) (by simpa using fresh)

/-- The loop that stops has the first elements, up to its number, by induction on the list. -/
theorem fill_eq_take {limit : Nat} {kept : List α} (room : kept.length < limit) (xs : List α)
    : fill once limit kept xs = (xs.foldl (addFirst once) kept).take limit := by
  induction xs generalizing kept with
  | nil => exact (List.take_of_length_le (Nat.le_of_lt room)).symm
  | cons x rest ih =>
      have next := @length_addFirst_le α _ once kept x
      rw [fill, List.foldl_cons]
      split
      next full =>
          have size : (addFirst once kept x).length = limit := by omega
          have part := @isPrefix_foldl_addFirst α _ once (addFirst once kept x) rest
          rw [List.prefix_iff_eq_take, size] at part
          exact part
      next more => exact ih (Nat.lt_of_not_le more)

theorem firsts_append (xs ys : List α)
    : firsts once (xs ++ ys) = ys.foldl (addFirst once) (firsts once xs) :=
  List.foldl_append

/-- More elements behind a list leave its first elements as they are. -/
theorem firsts_isPrefix {xs ys : List α} (part : xs <+: ys) : firsts once xs <+: firsts once ys := by
  obtain ⟨rest, rfl⟩ := part
  rw [firsts_append]
  exact isPrefix_foldl_addFirst _ rest

theorem firsts_false (xs : List α) : firsts false xs = xs := by
  have all (kept : List α) : xs.foldl (addFirst false) kept = kept ++ xs := by
    induction xs generalizing kept with
    | nil => exact (List.append_nil kept).symm
    | cons x rest ih => rw [List.foldl_cons, ih, addFirst, if_neg (by simp), List.append_assoc]; rfl
  exact all []

theorem length_firsts_true (xs : List α) : (firsts true xs).length = xs.toFinset.card := by
  have distinct : (firsts true xs).Nodup := nodup_foldl_addFirst List.nodup_nil
  rw [← List.toFinset_card_of_nodup distinct]
  congr 1
  ext y
  rw [List.mem_toFinset, List.mem_toFinset, firsts, mem_foldl_addFirst]
  simp

end CtxRemote.Library
