import Mathlib.Data.List.Infix

/-! Lists cut into segments: an element joins the segment before it, or starts the next one. The
segments of a part that consists of whole segments are those of the part.
-/

namespace CtxRemote.Library

universe u

variable {α : Type u}

-----------------------------------------------------------------------------------------
-- Segments
-----------------------------------------------------------------------------------------

section Segments

variable (attaches : List α → α → Bool)

/-- The segments of a list behind an open segment. -/
def segmentsFrom (start : List α) : List α → List (List α)
  | [] => [start]
  | x :: rest =>
      if attaches start x then segmentsFrom (start ++ [x]) rest else start :: segmentsFrom [x] rest

/-- The segments of a list. -/
def segments : List α → List (List α)
  | [] => []
  | x :: rest => segmentsFrom attaches [x] rest

variable {attaches}

/-- The segments hold all elements in their order, by induction on the list. -/
theorem flatten_segmentsFrom (start xs : List α)
    : (segmentsFrom attaches start xs).flatten = start ++ xs := by
  induction xs generalizing start with
  | nil => simp [segmentsFrom]
  | cons x rest ih =>
      unfold segmentsFrom
      split
      next => simp [ih]
      next => simp [ih]

@[simp] theorem flatten_segments (xs : List α) : (segments attaches xs).flatten = xs := by
  cases xs with
  | nil => rfl
  | cons x rest => exact flatten_segmentsFrom [x] rest

/-- What follows the first segment is cut as a list of its own. -/
theorem segments_of_tail {start xs first : List α} {later : List (List α)}
    (cut : segmentsFrom attaches start xs = first :: later)
    : segments attaches later.flatten = later := by
  induction xs generalizing start with
  | nil =>
      unfold segmentsFrom at cut
      obtain ⟨-, rfl⟩ := List.cons.inj cut
      rfl
  | cons x rest ih =>
      unfold segmentsFrom at cut
      split at cut
      next => exact ih cut
      next =>
          obtain ⟨-, rfl⟩ := List.cons.inj cut
          rw [flatten_segmentsFrom]
          rfl

/-- The first segments are those of the elements in them, by induction on the list. -/
theorem segmentsFrom_front {start xs : List α} {front after : List (List α)}
    (cut : segmentsFrom attaches start xs = front ++ after) (some' : front ≠ [])
    : ∃ inside, front.flatten = start ++ inside ∧ segmentsFrom attaches start inside = front := by
  induction xs generalizing start front with
  | nil =>
      unfold segmentsFrom at cut
      obtain ⟨first, rest, rfl⟩ := List.exists_cons_of_ne_nil some'
      obtain ⟨rfl, nothing⟩ := List.cons.inj cut
      obtain ⟨rfl, -⟩ := List.append_eq_nil_iff.mp nothing.symm
      exact ⟨[], by simp, rfl⟩
  | cons x rest ih =>
      unfold segmentsFrom at cut
      by_cases joins : attaches start x = true
      · rw [if_pos joins] at cut
        obtain ⟨inside, flat, same⟩ := ih cut some'
        refine ⟨x :: inside, by simp [flat], ?_⟩
        rw [segmentsFrom, if_pos joins, same]
      · rw [if_neg joins] at cut
        obtain ⟨first, more, rfl⟩ := List.exists_cons_of_ne_nil some'
        obtain ⟨rfl, later⟩ := List.cons.inj cut
        cases more with
        | nil => exact ⟨[], by simp, rfl⟩
        | cons second more =>
            obtain ⟨inside, flat, same⟩ := ih later (List.cons_ne_nil _ _)
            refine ⟨x :: inside, by rw [List.flatten_cons, flat]; rfl, ?_⟩
            rw [segmentsFrom, if_neg joins, same]

theorem segments_of_front {xs : List α} {front after : List (List α)}
    (cut : segments attaches xs = front ++ after)
    : segments attaches front.flatten = front := by
  cases front with
  | nil => rfl
  | cons first more =>
      cases xs with
      | nil => cases cut
      | cons x rest =>
          obtain ⟨inside, flat, same⟩ := segmentsFrom_front cut (List.cons_ne_nil _ _)
          rw [flat]
          exact same

/-- The last segments are those of the elements in them, by induction on the others. -/
theorem segments_of_back {xs : List α} {before back : List (List α)}
    (cut : segments attaches xs = before ++ back)
    : segments attaches back.flatten = back := by
  induction before generalizing xs with
  | nil =>
      rw [← (show _ = back from cut), flatten_segments]
  | cons first before ih =>
      cases xs with
      | nil => cases cut
      | cons x rest => exact ih (segments_of_tail cut)

/-- Whole segments, taken out of a list, are cut as they were in it. -/
theorem segments_of_infix {xs : List α} {piece : List (List α)}
    (inside : piece <:+: segments attaches xs)
    : segments attaches piece.flatten = piece := by
  obtain ⟨before, after, cut⟩ := inside
  rw [List.append_assoc] at cut
  exact segments_of_front (segments_of_back cut.symm)

/-- Elements in front of a list extend its first segment where they have no part in what joins it.
By induction on the list.
-/
theorem segmentsFrom_append_left {lead start : List α} (xs : List α)
    (same : ∀ more x, attaches (lead ++ (start ++ more)) x = attaches (start ++ more) x)
    : ∃ more later,
        segmentsFrom attaches start xs = (start ++ more) :: later
        ∧ segmentsFrom attaches (lead ++ start) xs = (lead ++ (start ++ more)) :: later := by
  induction xs generalizing start with
  | nil => exact ⟨[], [], by simp [segmentsFrom], by simp [segmentsFrom]⟩
  | cons x rest ih =>
      have here : attaches (lead ++ start) x = attaches start x := by simpa using same [] x
      unfold segmentsFrom
      rw [here]
      by_cases joins : attaches start x = true
      · have grown (more : List α) (y : α)
            : attaches (lead ++ (start ++ [x] ++ more)) y = attaches (start ++ [x] ++ more) y := by
          simpa using same (x :: more) y
        obtain ⟨more, later, cut, extended⟩ := ih grown
        rw [if_pos joins, if_pos joins, List.append_assoc lead, cut, extended]
        exact ⟨x :: more, later, by simp, by simp⟩
      · rw [if_neg joins, if_neg joins]
        exact ⟨[], segmentsFrom attaches [x] rest, by simp, by simp⟩

/-- An element behind a list joins its last segment or is one, by induction on the list. -/
theorem segmentsFrom_concat (start xs : List α) (x : α)
    : ∃ front last,
        segmentsFrom attaches start xs = front ++ [last]
        ∧ segmentsFrom attaches start (xs ++ [x])
          = front ++ if attaches last x then [last ++ [x]] else [last, [x]] := by
  induction xs generalizing start with
  | nil => exact ⟨[], start, rfl, rfl⟩
  | cons y rest ih =>
      rw [List.cons_append]
      unfold segmentsFrom
      by_cases joins : attaches start y = true
      · rw [if_pos joins, if_pos joins]
        exact ih (start ++ [y])
      · obtain ⟨front, last, cut, more⟩ := ih [y]
        rw [if_neg joins, if_neg joins, cut, more]
        exact ⟨start :: front, last, rfl, rfl⟩

/-- A segment starts with the list or with an element that does not join the one before. -/
theorem head_of_mem_segmentsFrom {start xs segment : List α}
    (member : segment ∈ segmentsFrom attaches start xs)
    : start <+: segment ∨ ∃ x rest open', segment = x :: rest ∧ attaches open' x = false := by
  induction xs generalizing start with
  | nil =>
      obtain rfl := List.mem_singleton.mp member
      exact .inl (List.prefix_refl _)
  | cons x rest ih =>
      unfold segmentsFrom at member
      by_cases joins : attaches start x = true
      · rw [if_pos joins] at member
        exact (ih member).imp_left ((List.prefix_append _ _).trans ·)
      · rw [if_neg joins] at member
        rcases List.mem_cons.mp member with rfl | member
        · exact .inl (List.prefix_refl _)
        · rcases ih member with ⟨more, rfl⟩ | other
          · exact .inr ⟨x, more, start, rfl, by simpa using joins⟩
          · exact .inr other

end Segments

-----------------------------------------------------------------------------------------
-- Neighbours
-----------------------------------------------------------------------------------------

/-- `windows(2)`. -/
def neighbours (xs : List α) : List (α × α) := xs.zip xs.tail

theorem mem_neighbours {xs : List α} {left right : α}
    : (left, right) ∈ neighbours xs ↔ [left, right] <:+: xs := by
  unfold neighbours
  induction xs with
  | nil => simp
  | cons x rest ih =>
      cases rest with
      | nil => simp [List.infix_cons_iff]
      | cons y rest =>
          rw [List.infix_cons_iff, ← ih]
          simp [List.cons_prefix_cons, List.zip_cons_cons]

@[simp] theorem neighbours_cons_cons (x y : α) (rest : List α)
    : neighbours (x :: y :: rest) = (x, y) :: neighbours (y :: rest) := rfl

theorem mem_neighbours_concat {xs : List α} {x y : α} {pair : α × α}
    : pair ∈ neighbours (xs ++ [x, y]) ↔ pair ∈ neighbours (xs ++ [x]) ∨ pair = (x, y) := by
  obtain ⟨left, right⟩ := pair
  have ends : [left, right] <:+ (xs ++ [x]) ++ [y] ↔ left = x ∧ right = y := by
    rw [← List.reverse_prefix]
    simp [and_comm]
  rw [mem_neighbours, mem_neighbours, List.append_cons, List.infix_concat_iff, ends, Prod.mk.injEq,
    or_comm]

/-- Neighbours in a part are neighbours. -/
theorem neighbours_of_infix {xs ys : List α} {pair : α × α} (inside : xs <:+: ys)
    (member : pair ∈ neighbours xs)
    : pair ∈ neighbours ys :=
  mem_neighbours.mpr ((mem_neighbours.mp member).trans inside)

end CtxRemote.Library
