import Mathlib.Data.List.Perm.Basic

/-! Pairs of lists whose second ones are the longer: where the first ones are the second ones, but for a
start and an end, the pairs can be put in the order in which each goes on where another one ends.
-/

namespace CtxRemote.Library

universe u

variable {β : Type u}

/-- The pairs lead from a start to an end: in some order, the first one begins at the start, each other one
where the one before it ends, and the last one ends at the end.
-/
def Leads (start last : List β) (pairs : List (List β × List β)) : Prop :=
  ∃ chain : List (List β × List β),
    chain.Perm pairs ∧ chain.map Prod.fst ++ [last] = start :: chain.map Prod.snd

theorem length_flatten_add {pairs : List (List β × List β)}
    (longer : ∀ pair ∈ pairs, pair.1.length < pair.2.length)
    : (pairs.map Prod.fst).flatten.length + pairs.length ≤ (pairs.map Prod.snd).flatten.length := by
  induction pairs with
  | nil => simp
  | cons pair pairs ih =>
      obtain ⟨here, later⟩ := List.forall_mem_cons.mp longer
      have rest := ih later
      simp only [List.map_cons, List.flatten_cons, List.length_append, List.length_cons]
      omega

/-- No pairs lead back to where they begin. -/
theorem eq_nil_of_perm {pairs : List (List β × List β)}
    (longer : ∀ pair ∈ pairs, pair.1.length < pair.2.length)
    (same : (pairs.map Prod.fst).Perm (pairs.map Prod.snd))
    : pairs = [] := by
  have lengths := same.flatten.length_eq
  have more := length_flatten_add longer
  exact List.eq_nil_of_length_eq_zero (by omega)

/-- Pairs that lead from a start to an end are those whose two sides differ in these alone. Witness: by
induction on the number of pairs, of which one begins at the start.
-/
theorem leads_iff {start last : List β} {pairs : List (List β × List β)}
    (longer : ∀ pair ∈ pairs, pair.1.length < pair.2.length)
    : Leads start last pairs ↔ (pairs.map Prod.fst ++ [last]).Perm (start :: pairs.map Prod.snd) := by
  constructor
  · rintro ⟨chain, order, whole⟩
    refine ((order.map _).symm.append_right _).trans ?_
    rw [whole]
    exact (order.map _).cons _
  · intro same
    generalize count : pairs.length = n at same
    induction n generalizing pairs start with
    | zero =>
        obtain rfl := List.eq_nil_of_length_eq_zero count
        exact ⟨[], List.Perm.nil, List.perm_singleton.mp same⟩
    | succ n ih =>
        have first : start ∈ pairs.map Prod.fst ++ [last] := same.symm.subset (.head _)
        rcases List.mem_append.mp first with begins | ends
        · obtain ⟨pair, member, rfl⟩ := List.mem_map.mp begins
          obtain ⟨left, right, rfl⟩ := List.append_of_mem member
          have moved : (left ++ pair :: right).Perm (pair :: (left ++ right)) := List.perm_middle
          have rest
              : (pair.1 :: ((left ++ right).map Prod.fst ++ [last])).Perm
                  (pair.1 :: (pair :: (left ++ right)).map Prod.snd) :=
            ((moved.map Prod.fst).append_right [last]).symm.trans
              (same.trans ((moved.map Prod.snd).cons _))
          have shorter : (left ++ right).length = n := by
            have size := moved.length_eq
            simp only [List.length_cons] at size
            omega
          obtain ⟨chain, order, whole⟩ :=
            ih (fun pair inside => longer pair (moved.symm.subset (.tail _ inside))) rest.cons_inv shorter
          refine ⟨pair :: chain, (order.cons _).trans moved.symm, ?_⟩
          rw [List.map_cons, List.cons_append, whole, List.map_cons]
        · obtain rfl := List.mem_singleton.mp ends
          have sides : (start :: pairs.map Prod.fst).Perm (start :: pairs.map Prod.snd) :=
            (List.perm_append_singleton _ _).symm.trans same
          obtain rfl := eq_nil_of_perm longer sides.cons_inv
          exact ⟨[], List.Perm.nil, rfl⟩

end CtxRemote.Library
