import Mathlib.Data.List.Infix

/-! Runs of elements that share a key, one behind the other in a list. A place of the list where the
key changes lies between two runs.
-/

namespace CtxRemote.Library

variable {α β Key : Type}

-----------------------------------------------------------------------------------------
-- Last index
-----------------------------------------------------------------------------------------

/-- `rposition`: the last index whose element passes a test. -/
def rposition? (test : α → Bool) (xs : List α) : Option Nat :=
  (xs.reverse.findIdx? test).map fun index => xs.length - 1 - index

/-- The element at the last index passes, and none behind it does. -/
theorem rposition?_eq_some {test : α → Bool} {xs : List α} {i : Nat}
    (found : rposition? test xs = some i)
    : i < xs.length
      ∧ (∀ x, xs[i]? = some x → test x = true)
      ∧ ∀ j x, i < j → xs[j]? = some x → test x = false := by
  obtain ⟨back, foundBack, rfl⟩ := Option.map_eq_some_iff.mp found
  obtain ⟨inside, passes, before⟩ := List.findIdx?_eq_some_iff_getElem.mp foundBack
  rw [List.length_reverse] at inside
  refine ⟨by omega, fun x here => ?_, fun j x behind there => ?_⟩
  · rw [List.getElem_reverse] at passes
    obtain ⟨_, rfl⟩ := List.getElem?_eq_some_iff.mp here
    exact passes
  · obtain ⟨bound, rfl⟩ := List.getElem?_eq_some_iff.mp there
    have earlier := before (xs.length - 1 - j) (by omega)
    rw [List.getElem_reverse] at earlier
    have same : xs.length - 1 - (xs.length - 1 - j) = j := by omega
    simp only [same] at earlier
    simpa using earlier

-----------------------------------------------------------------------------------------
-- Boundaries
-----------------------------------------------------------------------------------------

/-- The key changes between the elements in front of a place and behind it. -/
def IsBoundary (key : α → Key) (xs : List α) (place : Nat) : Prop :=
  ∀ left right, 0 < place → xs[place - 1]? = some left → xs[place]? = some right →
    key left ≠ key right

theorem isBoundary_zero (key : α → Key) (xs : List α) : IsBoundary key xs 0 :=
  fun _ _ positive => absurd positive (by omega)

theorem isBoundary_end (key : α → Key) (xs : List α) : IsBoundary key xs xs.length :=
  fun _ _ _ _ behind => absurd (List.getElem?_eq_some_iff.mp behind).1 (by omega)

/-- What is in front of a boundary are whole runs. Witness: by induction on the runs, where the
boundary lies in front of the first one, at its end, or behind it.
-/
theorem take_flatMap_of_isBoundary {key : α → Key} {elements : β → List α} {runKey : β → Key}
    (share : ∀ run, ∀ x ∈ elements run, key x = runKey run) (runs : List β) {place : Nat}
    (boundary : IsBoundary key (runs.flatMap elements) place)
    : ∃ count, (runs.flatMap elements).take place = (runs.take count).flatMap elements := by
  induction runs generalizing place with
  | nil => exact ⟨0, by simp⟩
  | cons run rest ih =>
      rw [List.flatMap_cons] at boundary ⊢
      by_cases start : place = 0
      · exact ⟨0, by simp [start]⟩
      by_cases within : place < (elements run).length
      · have before : place - 1 < (elements run).length := by omega
        have keyBefore := share run _ (List.getElem_mem before)
        have keyBehind := share run _ (List.getElem_mem within)
        refine absurd (keyBefore.trans keyBehind.symm) (boundary _ _ (by omega) ?_ ?_)
        · rw [List.getElem?_append_left before, List.getElem?_eq_getElem before]
        · rw [List.getElem?_append_left within, List.getElem?_eq_getElem within]
      obtain ⟨later, rfl⟩ : ∃ later, place = (elements run).length + later :=
        ⟨place - (elements run).length, by omega⟩
      have laterBoundary : IsBoundary key (rest.flatMap elements) later := by
        intro left right positive before behind
        refine boundary left right (by omega) ?_ ?_
        · rw [List.getElem?_append_right (by omega), ← before]
          congr 1
          omega
        · rw [List.getElem?_append_right (by omega), ← behind]
          congr 1
          omega
      obtain ⟨count, same⟩ := ih laterBoundary
      exact ⟨count + 1, by simp [List.take_append, List.take_of_length_le, same]⟩

end CtxRemote.Library
