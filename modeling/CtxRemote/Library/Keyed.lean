import Mathlib.Data.List.Nodup
import Mathlib.Data.List.Perm.Basic

/-! Tables whose only unique constraint is their key. What a table says is what `find?` says at each
key: two tables that agree there have the same rows, up to their order.
-/

namespace CtxRemote.Library

universe u v

/-- Rows with distinct keys, in the order of their insertion. -/
structure Keyed (Row : Type u) {Key : Type v} (key : Row → Key) where
  rows : List Row
  distinct : (rows.map key).Nodup

namespace Keyed

variable {Row : Type u} {Key : Type v} {key : Row → Key}

instance : Membership Row (Keyed Row key) := ⟨fun table row => row ∈ table.rows⟩

theorem mem_def {table : Keyed Row key} {row : Row} : row ∈ table ↔ row ∈ table.rows :=
  Iff.rfl

/-- The table without rows. -/
def empty : Keyed Row key := ⟨[], .nil⟩

/-- The rows determine a table. -/
@[ext] theorem ext_rows {left right : Keyed Row key} (same : left.rows = right.rows)
    : left = right := by
  cases left
  cases right
  cases same
  rfl

/-- Two rows with one key are one row. -/
theorem eq_of_key {table : Keyed Row key} {left right : Row} (hl : left ∈ table)
    (hr : right ∈ table) (same : key left = key right)
    : left = right :=
  List.inj_on_of_nodup_map table.distinct hl hr same

variable [DecidableEq Key]

/-- The row with a key. -/
def find? (table : Keyed Row key) (k : Key) : Option Row :=
  table.rows.find? fun row => key row = k

/-- Whether a row has the key. -/
def holds (table : Keyed Row key) (k : Key) : Bool := (table.find? k).isSome

/-- The search finds exactly the rows of the table, each under its key. -/
theorem find?_eq_some {table : Keyed Row key} {k : Key} {row : Row}
    : table.find? k = some row ↔ row ∈ table ∧ key row = k := by
  constructor
  · intro found
    exact ⟨List.mem_of_find?_eq_some found,
      of_decide_eq_true (List.find?_some (p := fun row => decide (key row = k)) found)⟩
  · rintro ⟨member, rfl⟩
    cases found : table.find? (key row) with
    | none =>
        have missed := List.find?_eq_none.mp found row member
        simp at missed
    | some other =>
        have inside : other ∈ table := List.mem_of_find?_eq_some found
        have same : key other = key row :=
          of_decide_eq_true (List.find?_some (p := fun other => decide (key other = key row)) found)
        rw [eq_of_key inside member same]

theorem key_of_find? {table : Keyed Row key} {k : Key} {row : Row}
    (found : table.find? k = some row)
    : key row = k :=
  (find?_eq_some.mp found).2

theorem holds_iff {table : Keyed Row key} {k : Key}
    : table.holds k = true ↔ ∃ row ∈ table, key row = k := by
  unfold holds
  rw [Option.isSome_iff_exists]
  simp only [find?_eq_some]

-----------------------------------------------------------------------------------------
-- Writes
-----------------------------------------------------------------------------------------

/-- The rows with one that takes the place of the row with its key, or comes last. -/
def putRows (key : Row → Key) (row : Row) : List Row → List Row
  | [] => [row]
  | held :: rest => if key held = key row then row :: rest else held :: putRows key row rest

/-- A write keeps the keys, and adds the row's key behind them if it is new. -/
theorem map_putRows (row : Row) (rows : List Row)
    : (putRows key row rows).map key
      = if key row ∈ rows.map key then rows.map key else rows.map key ++ [key row] := by
  induction rows with
  | nil => simp [putRows]
  | cons held rest ih =>
      unfold putRows
      by_cases here : key held = key row
      · simp [here]
      · have other : key row ≠ key held := fun same => here same.symm
        rw [if_neg here, List.map_cons, ih, List.map_cons]
        by_cases later : key row ∈ rest.map key
        · simp [later]
        · rw [if_neg later, if_neg (by simpa [other] using later), List.cons_append]

theorem find?_putRows (row : Row) (rows : List Row) (k : Key)
    : (putRows key row rows).find? (fun held => key held = k)
      = if key row = k then some row else rows.find? fun held => key held = k := by
  induction rows with
  | nil =>
      unfold putRows
      by_cases here : key row = k <;> simp [here]
  | cons held rest ih =>
      unfold putRows
      by_cases taken : key held = key row
      · rw [if_pos taken]
        by_cases here : key row = k <;> simp [taken, here]
      · rw [if_neg taken, List.find?_cons, List.find?_cons, ih]
        by_cases here : key held = k
        · have other : key row ≠ k := fun same => taken (here.trans same.symm)
          simp [here, other]
        · simp [here]

/-- `INSERT … ON CONFLICT(key) DO UPDATE` of every column. -/
def put (table : Keyed Row key) (row : Row) : Keyed Row key where
  rows := putRows key row table.rows
  distinct := by
    rw [map_putRows]
    split
    next => exact table.distinct
    next fresh =>
        rw [List.nodup_append]
        refine ⟨table.distinct, List.nodup_singleton _, ?_⟩
        rintro k member _ single rfl
        obtain rfl := List.mem_singleton.mp single
        exact fresh member

/-- A write changes what the table says at the row's key, and nowhere else. -/
@[simp] theorem find?_put (table : Keyed Row key) (row : Row) (k : Key)
    : (table.put row).find? k = if key row = k then some row else table.find? k :=
  find?_putRows row table.rows k

/-- Writing a row that the table holds changes nothing. -/
theorem put_self {table : Keyed Row key} {row : Row} (held : table.find? (key row) = some row)
    : table.put row = table := by
  have unchanged
      : ∀ rows : List Row, rows.find? (fun other => key other = key row) = some row
        → putRows key row rows = rows := by
    intro rows
    induction rows with
    | nil => simp
    | cons other rest ih =>
        intro found
        unfold putRows
        by_cases here : key other = key row
        · rw [if_pos here]
          rw [List.find?_cons_of_pos (by simpa using here)] at found
          rw [Option.some.inj found]
        · rw [if_neg here]
          rw [List.find?_cons_of_neg (by simpa using here)] at found
          rw [ih found]
  exact ext_rows (unchanged table.rows held)

/-- A write leaves the rows with other keys. -/
theorem mem_put {table : Keyed Row key} {row found : Row}
    : found ∈ table.put row ↔ found = row ∨ found ∈ table ∧ key found ≠ key row := by
  have agree := find?_put table row (key found)
  have left : found ∈ table.put row ↔ (table.put row).find? (key found) = some found :=
    ⟨fun member => find?_eq_some.mpr ⟨member, rfl⟩, fun here => (find?_eq_some.mp here).1⟩
  have right : found ∈ table ↔ table.find? (key found) = some found :=
    ⟨fun member => find?_eq_some.mpr ⟨member, rfl⟩, fun here => (find?_eq_some.mp here).1⟩
  rw [left, right, agree]
  by_cases here : key row = key found
  · rw [if_pos here]
    simp [here, eq_comm]
  · rw [if_neg here]
    have other : found ≠ row := fun same => here (by rw [same])
    simp [other, Ne.symm here]

theorem putRows_fresh {row : Row} {rows : List Row} (fresh : ∀ held ∈ rows, key held ≠ key row)
    : putRows key row rows = rows ++ [row] := by
  induction rows with
  | nil => rfl
  | cons held rest ih =>
      rw [putRows, if_neg (fresh held (by simp)), ih fun other member => fresh other (by simp [member]),
        List.cons_append]

/-- A row with a new key comes last. -/
theorem rows_put_fresh {table : Keyed Row key} {row : Row} (fresh : table.holds (key row) = false)
    : (table.put row).rows = table.rows ++ [row] := by
  refine putRows_fresh fun held member same => ?_
  rw [holds_iff.mpr ⟨held, member, same⟩] at fresh
  cases fresh

/-- `UPDATE`, of columns beside the key. -/
def modify (table : Keyed Row key) (change : Row → Row) (keeps : ∀ row, key (change row) = key row)
    : Keyed Row key where
  rows := table.rows.map change
  distinct := by
    have same : key ∘ change = key := funext keeps
    rw [List.map_map, same]
    exact table.distinct

@[simp] theorem find?_modify (table : Keyed Row key) (change : Row → Row)
    (keeps : ∀ row, key (change row) = key row) (k : Key)
    : (table.modify change keeps).find? k = (table.find? k).map change := by
  unfold find? modify
  rw [List.find?_map]
  congr 2
  funext row
  simp [keeps]

/-- `DELETE` of the rows that do not meet a condition on the key. -/
def keep (table : Keyed Row key) (condition : Key → Bool) : Keyed Row key where
  rows := table.rows.filter fun row => condition (key row)
  distinct := table.distinct.sublist (List.filter_sublist.map key)

@[simp] theorem find?_keep (table : Keyed Row key) (condition : Key → Bool) (k : Key)
    : (table.keep condition).find? k = if condition k then table.find? k else none := by
  unfold find? keep
  rw [List.find?_filter]
  split
  next kept =>
      congr 1
      funext row
      by_cases here : key row = k <;> simp [here, kept]
  next dropped =>
      rw [List.find?_eq_none]
      intro row _
      by_cases here : key row = k <;> simp [here, dropped]

/-- `DELETE` of the rows that do not meet a condition. -/
def filter (table : Keyed Row key) (condition : Row → Bool) : Keyed Row key where
  rows := table.rows.filter condition
  distinct := table.distinct.sublist (List.filter_sublist.map key)

theorem holds_put (table : Keyed Row key) (row : Row) (k : Key)
    : (table.put row).holds k = (decide (key row = k) || table.holds k) := by
  unfold holds
  rw [find?_put]
  by_cases here : key row = k <;> simp [here]

end Keyed

end CtxRemote.Library
