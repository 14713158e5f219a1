import Mathlib.Data.List.Sort

/-! Rows read in the order of a unique key: sorting, uniqueness of the order, and keyset pages. -/

namespace CtxRemote.Library

universe u v

variable {Row : Type u} {Key : Type v} [LinearOrder Key] (key : Row → Key)

/-- The rows strictly increase along the key. -/
def Ascending (rows : List Row) : Prop :=
  rows.Pairwise fun earlier later => key earlier < key later

/-- `ORDER BY` the key. -/
def orderBy (rows : List Row) : List Row :=
  rows.insertionSort fun left right => key left ≤ key right

variable {key}

theorem orderBy_perm (rows : List Row) : (orderBy key rows).Perm rows :=
  List.perm_insertionSort _ rows

@[simp] theorem mem_orderBy {rows : List Row} {row : Row} : row ∈ orderBy key rows ↔ row ∈ rows :=
  (orderBy_perm rows).mem_iff

/-- Sorting gives a weakly increasing list. -/
theorem orderBy_sorted (rows : List Row)
    : (orderBy key rows).Pairwise fun left right => key left ≤ key right := by
  have total : Std.Total fun left right : Row => key left ≤ key right :=
    ⟨fun left right => le_total (key left) (key right)⟩
  have transitive : IsTrans Row fun left right => key left ≤ key right :=
    ⟨fun _ _ _ => le_trans⟩
  exact List.pairwise_insertionSort _ rows

/-- Sorting by a key without repetitions gives a strictly increasing list. Witness: the sort is
weakly increasing, and its keys are still pairwise different.
-/
theorem orderBy_ascending {rows : List Row} (unique : (rows.map key).Nodup)
    : Ascending key (orderBy key rows) := by
  have different : (orderBy key rows).Pairwise fun left right => key left ≠ key right :=
    List.pairwise_map.mp (((orderBy_perm rows).map key).nodup_iff.mpr unique)
  exact ((orderBy_sorted rows).and different).imp fun ⟨le, ne⟩ => lt_of_le_of_ne le ne

/-- A strictly increasing list is determined by its rows. -/
theorem Ascending.eq_of_perm {left right : List Row} (hl : Ascending key left)
    (hr : Ascending key right) (same : left.Perm right)
    : left = right :=
  List.Perm.eq_of_pairwise
    (fun _ _ _ _ before back => absurd before (lt_asymm back)) hl hr same

/-- A row that a strictly increasing list holds beyond its first `count` rows follows them all. -/
theorem Ascending.take_lt {rows : List Row} (ordered : Ascending key rows) {count : Nat}
    {row : Row} (member : row ∈ rows) (beyond : row ∉ rows.take count)
    : (rows.take count).length = count ∧ ∀ first ∈ rows.take count, key first < key row := by
  rw [← List.take_append_drop count rows] at member ordered
  have inside : row ∈ rows.drop count := (List.mem_append.mp member).resolve_left beyond
  obtain ⟨_, _, across⟩ := List.pairwise_append.mp ordered
  have long := List.length_pos_of_mem inside
  rw [List.length_drop] at long
  exact ⟨by rw [List.length_take]; omega, fun first early => across first early row inside⟩

variable (key) in
/-- `WHERE` the key follows an optional bound. -/
def rowsAfter (bound : Option Key) (rows : List Row) : List Row :=
  match bound with
  | none => rows
  | some bound => rows.filter fun row => bound < key row

/-- The rows behind a bound are a matter of the keys. -/
theorem rowsAfter_map {Other : Type*} (view : Other → Row) (bound : Option Key)
    (rows : List Other)
    : rowsAfter key bound (rows.map view)
      = (rowsAfter (fun row => key (view row)) bound rows).map view := by
  cases bound with
  | none => rfl
  | some bound =>
      simp only [rowsAfter, List.filter_map]
      rfl

theorem rowsAfter_subset (bound : Option Key) (rows : List Row)
    : rowsAfter key bound rows ⊆ rows := by
  cases bound with
  | none => exact List.Subset.refl rows
  | some bound => exact fun row member => List.mem_of_mem_filter member

theorem Ascending.rowsAfter {rows : List Row} (ordered : Ascending key rows)
    (bound : Option Key)
    : Ascending key (rowsAfter key bound rows) := by
  cases bound with
  | none => exact ordered
  | some bound => exact ordered.filter _

/-- Keyset paging: the rows after the last row of a page are the rows that follow the page. -/
theorem Ascending.rowsAfter_page {rows : List Row} (ordered : Ascending key rows)
    {bound : Option Key} {count : Nat} {last : Row}
    (ends : ((Library.rowsAfter key bound rows).take count).getLast? = some last)
    : Library.rowsAfter key (some (key last)) rows
      = (Library.rowsAfter key bound rows).drop count := by
  have onPage := List.mem_of_getLast? ends
  have same : Library.rowsAfter key (some (key last)) rows
      = (Library.rowsAfter key bound rows).filter fun row => key last < key row := by
    cases bound with
    | none => rfl
    | some bound =>
        have past : bound < key last :=
          of_decide_eq_true (List.mem_filter.mp (List.mem_of_mem_take onPage)).2
        rw [Library.rowsAfter, Library.rowsAfter, List.filter_filter]
        refine List.filter_congr fun row _ => ?_
        rw [← Bool.decide_and, decide_eq_decide]
        exact ⟨fun later => ⟨later, past.trans later⟩, And.left⟩
  rw [same]
  have whole := ordered.rowsAfter bound
  obtain ⟨init, split⟩ := List.getLast?_eq_some_iff.mp ends
  rw [← List.take_append_drop count (Library.rowsAfter key bound rows)] at whole
  obtain ⟨early, _, across⟩ := List.pairwise_append.mp whole
  have none : ((Library.rowsAfter key bound rows).take count).filter
      (fun row => key last < key row) = [] := by
    rw [split] at early ⊢
    refine List.filter_eq_nil_iff.mpr fun row member later => ?_
    have later := of_decide_eq_true later
    rcases List.mem_append.mp member with before | here
    · exact lt_asymm later ((List.pairwise_append.mp early).2.2 row before last (by simp))
    · obtain rfl : row = last := by simpa using here
      exact lt_irrefl _ later
  have all : ((Library.rowsAfter key bound rows).drop count).filter
      (fun row => key last < key row) = (Library.rowsAfter key bound rows).drop count :=
    List.filter_eq_self.mpr fun row late => decide_eq_true (across last onPage row late)
  conv_lhs => rw [← List.take_append_drop count (Library.rowsAfter key bound rows)]
  rw [List.filter_append, none, all, List.nil_append]

/-- Looking up ids by a key without repetitions gives each id at most once. -/
theorem lookup_sublist {rows : List Row} (unique : (rows.map key).Nodup) (ids : List Key)
    : ((ids.flatMap fun id => rows.filter fun row => key row = id).map key).Sublist ids := by
  induction ids with
  | nil => exact .slnil
  | cons id rest ih =>
      simp only [List.flatMap_cons, List.map_append]
      have found : ((rows.filter fun row => key row = id).map key).Sublist [id] := by
        have all : (rows.filter fun row => key row = id).map key
            = List.replicate (rows.filter fun row => key row = id).length id :=
          List.eq_replicate_iff.mpr ⟨by simp, by simp +contextual [eq_comm]⟩
        have once : (List.replicate (rows.filter fun row => key row = id).length id).Nodup :=
          all ▸ unique.sublist (List.filter_sublist.map key)
        rw [all]
        exact List.replicate_sublist_replicate id |>.mpr (List.nodup_replicate.mp once)
      exact found.append ih

end CtxRemote.Library
