import Mathlib.Data.List.Nodup
import Mathlib.Data.List.Perm.Basic

/-! Lists of keys with values, where no key comes twice: what a key has, and when a change of some of the
pairs is a change of one key.
-/

namespace CtxRemote.Library

universe u v

variable {κ : Type u} [BEq κ] {ν : Type v}

theorem lookup_append (left right : List (κ × ν)) (key : κ)
    : (left ++ right).lookup key = (left.lookup key).or (right.lookup key) := by
  induction left with
  | nil => rfl
  | cons pair left ih =>
      rw [List.cons_append, List.lookup_cons, List.lookup_cons]
      split
      next => rfl
      next => exact ih

variable [LawfulBEq κ]

theorem mem_of_lookup {pairs : List (κ × ν)} {key : κ} {value : ν} (found : pairs.lookup key = some value)
    : (key, value) ∈ pairs := by
  obtain ⟨front, rest, rfl, -⟩ := List.lookup_eq_some_iff.mp found
  exact List.mem_append_right _ (.head _)

/-- The only pair of a key is found. -/
theorem lookup_of_mem {pairs : List (κ × ν)} (distinct : (pairs.map Prod.fst).Nodup) {key : κ} {value : ν}
    (member : (key, value) ∈ pairs)
    : pairs.lookup key = some value := by
  induction pairs with
  | nil => cases member
  | cons pair rest ih =>
      rw [List.map_cons, List.nodup_cons] at distinct
      rw [List.lookup_cons]
      rcases List.mem_cons.mp member with rfl | later
      · rw [beq_self_eq_true]
      · have other : key ≠ pair.1 := by
          rintro rfl
          exact distinct.1 (List.mem_map.mpr ⟨_, later, rfl⟩)
        rw [beq_eq_false_iff_ne.mpr other]
        exact ih distinct.2 later

theorem lookup_isSome_iff {pairs : List (κ × ν)} {key : κ}
    : (pairs.lookup key).isSome = true ↔ key ∈ pairs.map Prod.fst := by
  induction pairs with
  | nil => simp
  | cons pair rest ih =>
      rw [List.lookup_cons, List.map_cons, List.mem_cons, ← ih]
      cases same : key == pair.1 with
      | true => simp [beq_iff_eq.mp same]
      | false => simp [beq_eq_false_iff_ne.mp same]

theorem lookup_eq_none_iff {pairs : List (κ × ν)} {key : κ}
    : pairs.lookup key = none ↔ key ∉ pairs.map Prod.fst := by
  rw [← lookup_isSome_iff, Bool.not_eq_true, Option.isSome_eq_false_iff, Option.isNone_iff_eq_none]

/-- What a key has does not go by the order. -/
theorem lookup_perm {left right : List (κ × ν)} (perm : left.Perm right)
    (distinct : (left.map Prod.fst).Nodup) (key : κ)
    : left.lookup key = right.lookup key := by
  have distinct' : (right.map Prod.fst).Nodup := (perm.map _).nodup_iff.mp distinct
  cases found : right.lookup key with
  | none =>
      rw [lookup_eq_none_iff] at found ⊢
      exact fun member => found ((perm.map _).mem_iff.mp member)
  | some value => exact lookup_of_mem distinct (perm.mem_iff.mpr (mem_of_lookup found))

variable {kept written overwritten : List (κ × ν)} {key : κ} {value : ν}

theorem lookup_written (all : ∀ pair ∈ written, pair.2 = value) {other : κ}
    (member : other ∈ written.map Prod.fst)
    : written.lookup other = some value := by
  obtain ⟨found, there⟩ := Option.isSome_iff_exists.mp (lookup_isSome_iff.mpr member)
  rw [there, ← all _ (mem_of_lookup there)]

variable [DecidableEq κ]

/-- To write a value in the place of some pairs changes one key, exactly when the keys that are written are
those that are overwritten, and the key itself where nothing has it, and what else is overwritten, and the
key where it is kept, have the value already.
-/
theorem lookup_change_iff (distinct : ((kept ++ overwritten).map Prod.fst).Nodup)
    (all : ∀ pair ∈ written, pair.2 = value)
    : ((kept ++ written).map Prod.fst).Nodup
        ∧ (∀ other, (kept ++ written).lookup other
          = if other = key then some value else (kept ++ overwritten).lookup other)
      ↔ (written.map Prod.fst).Perm (overwritten.map Prod.fst
          ++ if key ∈ (kept ++ overwritten).map Prod.fst then [] else [key])
        ∧ (∀ pair ∈ overwritten, pair.1 = key ∨ pair.2 = value)
        ∧ ∀ pair ∈ kept, pair.1 = key → pair.2 = value := by
  have apart := distinct
  rw [List.map_append, List.nodup_append] at apart
  obtain ⟨keptOnce, overwrittenOnce, separate⟩ := apart
  constructor
  · intro ⟨after, change⟩
    have apart' := after
    rw [List.map_append, List.nodup_append] at apart'
    obtain ⟨-, writtenOnce, separate'⟩ := apart'
    have present (other : κ)
        : other ∈ (kept ++ written).map Prod.fst
          ↔ other = key ∨ other ∈ (kept ++ overwritten).map Prod.fst := by
      rw [← lookup_isSome_iff, ← lookup_isSome_iff, change other]
      split <;> simp [*]
    simp only [List.map_append, List.mem_append] at present
    refine ⟨?_, ?_, ?_⟩
    · have once : (overwritten.map Prod.fst
          ++ if key ∈ (kept ++ overwritten).map Prod.fst then [] else [key]).Nodup := by
        split
        next => rwa [List.append_nil]
        next absent =>
            rw [List.map_append, List.mem_append, not_or] at absent
            rw [List.nodup_append]
            refine ⟨overwrittenOnce, List.nodup_singleton key, fun held inside other single equal => ?_⟩
            obtain rfl := List.mem_singleton.mp single
            exact absent.2 (equal ▸ inside)
      rw [List.perm_ext_iff_of_nodup writtenOnce once]
      intro other
      rw [List.mem_append]
      constructor
      · intro member
        have notKept : other ∉ kept.map Prod.fst := fun held => separate' _ held _ member rfl
        have before := (present other).mp (.inr member)
        rw [or_iff_right notKept] at before
        rcases before with rfl | before
        · by_cases held : other ∈ overwritten.map Prod.fst
          · exact .inl held
          · right
            rw [if_neg (by simp [notKept, held])]
            exact .head _
        · exact .inl before
      · rintro (member | appended)
        · exact ((present other).mpr (.inr (.inr member))).resolve_left
            fun held => separate _ held _ member rfl
        · split at appended
          next => cases appended
          next absent =>
              obtain rfl := List.mem_singleton.mp appended
              rw [List.map_append, List.mem_append, not_or] at absent
              exact ((present other).mpr (.inl rfl)).resolve_left absent.1
    · intro pair member
      by_cases same : pair.1 = key
      · exact .inl same
      · right
        have before := lookup_of_mem distinct (List.mem_append_right kept member)
        have now := change pair.1
        rw [if_neg same, before, lookup_append] at now
        have free : kept.lookup pair.1 = none :=
          lookup_eq_none_iff.mpr fun held => separate _ held _ (List.mem_map_of_mem member) rfl
        rw [free, Option.none_or] at now
        exact all _ (mem_of_lookup now)
    · intro pair member same
      have now := change pair.1
      rw [if_pos same, lookup_of_mem after (List.mem_append_left written member)] at now
      exact Option.some.inj now
  · intro ⟨perm, others, same⟩
    have member (other : κ)
        : other ∈ written.map Prod.fst
          ↔ other ∈ overwritten.map Prod.fst
            ∨ other = key ∧ key ∉ (kept ++ overwritten).map Prod.fst := by
      rw [perm.mem_iff, List.mem_append]
      apply or_congr_right
      split
      next here => exact ⟨fun none => (List.not_mem_nil none).elim, fun both => (both.2 here).elim⟩
      next absent => exact List.mem_singleton.trans (and_iff_left absent).symm
    constructor
    · have whole : ((kept ++ written).map Prod.fst).Perm ((kept ++ overwritten).map Prod.fst
          ++ if key ∈ (kept ++ overwritten).map Prod.fst then [] else [key]) := by
        have front := perm.append_left (kept.map Prod.fst)
        rwa [← List.append_assoc, ← List.map_append, ← List.map_append] at front
      rw [whole.nodup_iff]
      split
      next => rwa [List.append_nil]
      next absent =>
          rw [List.nodup_append]
          refine ⟨distinct, List.nodup_singleton key, fun held inside other single equal => ?_⟩
          obtain rfl := List.mem_singleton.mp single
          exact absent (equal ▸ inside)
    · intro other
      rw [lookup_append, lookup_append]
      cases held : kept.lookup other with
      | some found =>
          rw [Option.some_or, Option.some_or]
          split
          next here => rw [← same _ (mem_of_lookup held) here]
          next => rfl
      | none =>
          rw [Option.none_or, Option.none_or]
          have notKept := lookup_eq_none_iff.mp held
          have there := member other
          rw [List.map_append, List.mem_append, not_or] at there
          split
          next here =>
              subst here
              refine lookup_written all (there.mpr ?_)
              by_cases inside : other ∈ overwritten.map Prod.fst
              · exact .inl inside
              · exact .inr ⟨rfl, notKept, inside⟩
          next elsewhere =>
              simp only [elsewhere, false_and, or_false] at there
              cases old : overwritten.lookup other with
              | none => exact lookup_eq_none_iff.mpr fun inside => lookup_eq_none_iff.mp old (there.mp inside)
              | some found =>
                  have inside := mem_of_lookup old
                  rw [lookup_written all (there.mpr (List.mem_map_of_mem inside))]
                  exact congrArg some ((others _ inside).resolve_left elsewhere).symm

end CtxRemote.Library
