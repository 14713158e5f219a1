import Mathlib.Data.List.Pairwise
import Mathlib.Data.List.Perm.Basic
import Mathlib.Logic.Relation

/-! Connected components of a list under a relation, collected by a breadth-first search that takes
each item once.
-/

namespace CtxRemote.Library

universe u

variable {Item : Type u} (related : Item → Item → Bool)

-----------------------------------------------------------------------------------------
-- The search
-----------------------------------------------------------------------------------------

/-- Visits the queue in order; each visited item queues the unvisited items that it is related to.
The result is the visited items and the ones left unvisited.
-/
def spread : Nat → List Item → List Item → List Item × List Item
  | 0, unvisited, queue => (queue, unvisited)
  | _ + 1, unvisited, [] => ([], unvisited)
  | fuel + 1, unvisited, current :: queue =>
      let (found, rest) := unvisited.partition (related current)
      let (component, left) := spread fuel rest (queue ++ found)
      (current :: component, left)

/-- The search from the first item, then from the first item that it leaves, and so on. -/
def componentsFrom : Nat → List Item → List (List Item)
  | 0, _ => []
  | _ + 1, [] => []
  | fuel + 1, start :: rest =>
      let (component, left) := spread related (rest.length + 1) rest [start]
      component :: componentsFrom fuel left

/-- The components of the items, by their first items. -/
def components (items : List Item) : List (List Item) :=
  componentsFrom related items.length items

variable {related}

-----------------------------------------------------------------------------------------
-- Every item is in one component
-----------------------------------------------------------------------------------------

/-- A search visits the queue, and each unvisited item at most once. -/
theorem spread_perm {fuel : Nat} {unvisited queue : List Item}
    : ((spread related fuel unvisited queue).1 ++ (spread related fuel unvisited queue).2).Perm
        (queue ++ unvisited) := by
  induction fuel generalizing unvisited queue with
  | zero => exact .rfl
  | succ fuel ih =>
      cases queue with
      | nil => exact .rfl
      | cons current queue =>
          simp only [spread, List.partition_eq_filter_filter, List.cons_append]
          refine (ih.trans ?_).cons current
          rw [List.append_assoc]
          exact (List.filter_append_perm (related current) unvisited).append_left queue

theorem length_spread {fuel : Nat} {start : Item} {rest : List Item}
    : (spread related (fuel + 1) rest [start]).2.length ≤ rest.length := by
  have visited := (@spread_perm _ related (fuel + 1) rest [start]).length_eq
  have first : 0 < (spread related (fuel + 1) rest [start]).1.length := by
    simp [spread]
  simp only [List.length_append, List.length_singleton] at visited
  omega

theorem componentsFrom_perm {fuel : Nat} {items : List Item} (enough : items.length ≤ fuel)
    : (componentsFrom related fuel items).flatten.Perm items := by
  induction fuel generalizing items with
  | zero =>
      obtain rfl := List.length_eq_zero_iff.mp (Nat.le_zero.mp enough)
      exact .rfl
  | succ fuel ih =>
      cases items with
      | nil => exact .rfl
      | cons start rest =>
          have shorter : (spread related (rest.length + 1) rest [start]).2.length ≤ fuel :=
            Nat.le_trans length_spread (Nat.le_of_succ_le_succ enough)
          simp only [componentsFrom, List.flatten_cons]
          exact ((ih shorter).append_left _).trans spread_perm

/-- The components hold each item once. -/
theorem components_perm (items : List Item) : (components related items).flatten.Perm items :=
  componentsFrom_perm (Nat.le_refl _)

theorem mem_of_mem_components {items component : List Item} {item : Item}
    (member : component ∈ components related items) (inside : item ∈ component)
    : item ∈ items :=
  (components_perm items).mem_iff.mp (List.mem_flatten.mpr ⟨component, member, inside⟩)

-----------------------------------------------------------------------------------------
-- Groups by key
-----------------------------------------------------------------------------------------

section Groups

variable {Key : Type u} [DecidableEq Key] (key : Item → Key)

/-- The groups of a list under keys that cover it hold each item once, by induction on the items; a
new first item goes to one group.
-/
theorem flatMap_filter_perm {keys : List Key} (distinct : keys.Nodup) {items : List Item}
    (covered : ∀ item ∈ items, key item ∈ keys)
    : (keys.flatMap fun k => items.filter fun item => key item = k).Perm items := by
  have insert {item : Item} {rest : List Item} {keys : List Key} (distinct : keys.Nodup)
      (member : key item ∈ keys)
      : (keys.flatMap fun k => (item :: rest).filter fun item => key item = k).Perm
          (item :: keys.flatMap fun k => rest.filter fun item => key item = k) := by
    induction keys with
    | nil => cases member
    | cons k keys ih =>
        obtain ⟨fresh, later⟩ := List.nodup_cons.mp distinct
        rw [List.flatMap_cons, List.flatMap_cons]
        by_cases here : key item = k
        · have others : (keys.flatMap fun k => (item :: rest).filter fun item => key item = k)
              = keys.flatMap fun k => rest.filter fun item => key item = k := by
            refine List.flatMap_congr fun other inside => ?_
            have apart : key item ≠ other := fun same => fresh (here ▸ same ▸ inside)
            exact List.filter_cons_of_neg (by simpa using apart)
          rw [others, List.filter_cons_of_pos (by simpa using here), List.cons_append]
        · rw [List.filter_cons_of_neg (by simpa using here)]
          have there := (List.mem_cons.mp member).resolve_left here
          exact ((ih later there).append_left _).trans List.perm_middle
  induction items with
  | nil => simp
  | cons item rest ih =>
      obtain ⟨first, others⟩ := List.forall_mem_cons.mp covered
      exact (insert distinct first).trans ((ih others).cons item)

end Groups

end CtxRemote.Library
