import Mathlib.Data.List.TakeWhile

/-! Removing the elements of a kind at both ends of a list. -/

namespace CtxRemote.Library

universe u

variable {α : Type u} {unwanted : α → Bool}

/-- The list without its unwanted elements at the two ends. -/
def strip (unwanted : α → Bool) (xs : List α) : List α :=
  ((xs.dropWhile unwanted).reverse.dropWhile unwanted).reverse

/-- A part with wanted ends stays as it is at the front of a list. -/
theorem strip_append {part : List α} (rest : List α) {first last : α}
    (starts : part.head? = some first) (keepsFirst : unwanted first = false)
    (ends : part.getLast? = some last) (keepsLast : unwanted last = false)
    : strip unwanted (part ++ rest)
      = part ++ (rest.reverse.dropWhile unwanted).reverse := by
  have front : (part ++ rest).dropWhile unwanted = part ++ rest := by
    obtain ⟨tail, rfl⟩ := List.head?_eq_some_iff.mp starts
    simp [keepsFirst]
  have back : part.reverse.dropWhile unwanted = part.reverse := by
    obtain ⟨init, rfl⟩ := List.getLast?_eq_some_iff.mp ends
    simp [keepsLast]
  unfold strip
  rw [front, List.reverse_append, List.dropWhile_append]
  split
  next empty => simp [back, List.isEmpty_iff.mp empty]
  next => simp

/-- A list with wanted ends stays as it is. -/
theorem strip_eq_self {xs : List α} {first last : α}
    (starts : xs.head? = some first) (keepsFirst : unwanted first = false)
    (ends : xs.getLast? = some last) (keepsLast : unwanted last = false)
    : strip unwanted xs = xs := by
  simpa using strip_append [] starts keepsFirst ends keepsLast

/-- What follows a wanted first element loses only elements at its end. -/
theorem strip_cons {first : α} (keeps : unwanted first = false) (rest : List α)
    : strip unwanted (first :: rest)
      = first :: (rest.reverse.dropWhile unwanted).reverse :=
  @strip_append α unwanted [first] rest first first rfl keeps rfl keeps

/-- An unwanted element at the end makes no difference. -/
theorem strip_append_unwanted {last : α} (drops : unwanted last = true) (xs : List α)
    : strip unwanted (xs ++ [last]) = strip unwanted xs := by
  unfold strip
  rw [List.dropWhile_append]
  split
  next empty => simp [drops, List.isEmpty_iff.mp empty]
  next => simp [drops]

/-- Unwanted elements at the front make no difference. -/
theorem strip_unwanted_append {lead : List α} (drops : ∀ x ∈ lead, unwanted x = true) (xs : List α)
    : strip unwanted (lead ++ xs) = strip unwanted xs := by
  unfold strip
  rw [List.dropWhile_append_of_pos drops]

/-- A list with a wanted first element starts with what is left of it. -/
theorem strip_isPrefix {first : α} (keeps : unwanted first = false) (rest : List α)
    : strip unwanted (first :: rest) <+: first :: rest := by
  rw [strip_cons keeps]
  have short : (rest.reverse.dropWhile unwanted).reverse <+: rest := by
    simpa using List.reverse_prefix.mpr (List.dropWhile_suffix unwanted (l := rest.reverse))
  exact (List.prefix_cons_inj first).mpr short

/-- What is left stands in the list. -/
theorem strip_isInfix (unwanted : α → Bool) (xs : List α) : strip unwanted xs <:+: xs := by
  have front : strip unwanted xs <+: xs.dropWhile unwanted := by
    have back := List.dropWhile_suffix unwanted (l := (xs.dropWhile unwanted).reverse)
    simpa [strip] using List.reverse_prefix.mpr back
  exact front.isInfix.trans (List.dropWhile_suffix unwanted).isInfix

/-- What is removed at the end. -/
theorem strip_append_end (unwanted : α → Bool) (xs : List α)
    : ∃ trail, xs = xs.takeWhile unwanted ++ (strip unwanted xs ++ trail)
      ∧ ∀ x ∈ trail, unwanted x = true := by
  refine ⟨((xs.dropWhile unwanted).reverse.takeWhile unwanted).reverse, ?_, ?_⟩
  · unfold strip
    rw [← List.reverse_append, List.takeWhile_append_dropWhile, List.reverse_reverse,
      List.takeWhile_append_dropWhile]
  · intro x member
    exact List.mem_takeWhile_imp (List.mem_reverse.mp member)

/-- What is left starts behind the unwanted elements at the front. -/
theorem strip_eq_take_drop (unwanted : α → Bool) (xs : List α)
    : strip unwanted xs = (xs.drop (xs.takeWhile unwanted).length).take (strip unwanted xs).length := by
  obtain ⟨trail, whole, -⟩ := strip_append_end unwanted xs
  have behind : xs.drop (xs.takeWhile unwanted).length = strip unwanted xs ++ trail :=
    (congrArg (List.drop (xs.takeWhile unwanted).length) whole).trans List.drop_left
  rw [behind, List.take_left]

theorem wanted_of_getLast?_strip {xs : List α} {x : α} (ends : (strip unwanted xs).getLast? = some x)
    : unwanted x = false := by
  have first := List.head?_dropWhile_not unwanted (xs.dropWhile unwanted).reverse
  rw [strip, List.getLast?_reverse] at ends
  simpa [ends] using first

theorem wanted_of_head?_strip {xs : List α} {x : α} (starts : (strip unwanted xs).head? = some x)
    : unwanted x = false := by
  have front : strip unwanted xs <+: xs.dropWhile unwanted := by
    have back := List.dropWhile_suffix unwanted (l := (xs.dropWhile unwanted).reverse)
    simpa [strip] using List.reverse_prefix.mpr back
  obtain ⟨more, same⟩ := front
  have first := List.head?_dropWhile_not unwanted xs
  rw [← same, List.head?_append, starts] at first
  simpa using first

/-- Nothing is left to remove. -/
theorem strip_strip (unwanted : α → Bool) (xs : List α)
    : strip unwanted (strip unwanted xs) = strip unwanted xs := by
  cases left : strip unwanted xs with
  | nil => rfl
  | cons first rest =>
      obtain ⟨last, ends⟩ := Option.isSome_iff_exists.mp (by simp : (first :: rest).getLast?.isSome)
      have keepsFirst : unwanted first = false := wanted_of_head?_strip (by rw [left]; rfl)
      have keepsLast : unwanted last = false := wanted_of_getLast?_strip (by rw [left]; exact ends)
      exact strip_eq_self rfl keepsFirst ends keepsLast

/-- A place is left where wanted elements stand, at it or before it, and at it or behind it. -/
theorem strip_range_iff {xs : List α} {place : Nat}
    : (xs.takeWhile unwanted).length ≤ place
        ∧ place < (xs.takeWhile unwanted).length + (strip unwanted xs).length
      ↔ (∃ left ≤ place, ∃ x, xs[left]? = some x ∧ unwanted x = false)
        ∧ ∃ right, place ≤ right ∧ ∃ x, xs[right]? = some x ∧ unwanted x = false := by
  obtain ⟨trail, whole, removed⟩ := strip_append_end unwanted xs
  have at' (i : Nat) : xs[i]?
      = (xs.takeWhile unwanted ++ (strip unwanted xs ++ trail))[i]? := congrArg (·[i]?) whole
  constructor
  · intro ⟨behind, within⟩
    have left : strip unwanted xs ≠ [] := by
      intro none
      rw [none, List.length_nil] at within
      omega
    have positive := List.length_pos_iff.mpr left
    obtain ⟨first, starts⟩ := Option.ne_none_iff_exists'.mp (mt List.head?_eq_none_iff.mp left)
    obtain ⟨last, ends⟩ := Option.ne_none_iff_exists'.mp (mt List.getLast?_eq_none_iff.mp left)
    constructor
    · refine ⟨_, behind, first, ?_, wanted_of_head?_strip starts⟩
      rw [at', List.getElem?_append_right (Nat.le_refl _), Nat.sub_self,
        List.getElem?_append_left positive, ← starts, List.head?_eq_getElem?]
    · refine ⟨(xs.takeWhile unwanted).length + ((strip unwanted xs).length - 1), by omega, last, ?_,
        wanted_of_getLast?_strip ends⟩
      rw [at', List.getElem?_append_right (Nat.le_add_right _ _), Nat.add_sub_cancel_left,
        List.getElem?_append_left (by omega), ← ends, List.getLast?_eq_getElem?]
  · intro ⟨⟨left, before, first, there, keeps⟩, right, after, last, here, keepsLast⟩
    constructor
    · by_contra short
      rw [at', List.getElem?_append_left (by omega)] at there
      have drops := List.mem_takeWhile_imp (List.mem_of_getElem? there)
      rw [keeps] at drops
      cases drops
    · by_contra long
      rw [at', ← List.append_assoc, List.getElem?_append_right] at here
      · have drops := removed last (List.mem_of_getElem? here)
        rw [keepsLast] at drops
        cases drops
      · rw [List.length_append]
        omega

end CtxRemote.Library
