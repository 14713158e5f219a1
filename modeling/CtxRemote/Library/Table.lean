import Mathlib.Data.List.Pairwise

/-! Tables whose rows satisfy uniqueness constraints, and the conflict-ignoring insert.

A constraint set is a relation `Clash`: two rows clash when no table may hold both. A primary
key and any number of unique indexes are one such relation, the disjunction of the equalities
they forbid.
-/

namespace CtxRemote.Library

universe u v w

/-- Rows in insertion order, no earlier row clashing with a later one. -/
@[ext]
structure Table (Row : Type u) (Clash : Row → Row → Prop) where
  rows : List Row
  distinct : rows.Pairwise fun earlier later => ¬ Clash earlier later

namespace Table

variable {Row : Type u} {Clash : Row → Row → Prop}

instance : Membership Row (Table Row Clash) := ⟨fun table row => row ∈ table.rows⟩

/-- Membership in a table is membership in its row list. -/
theorem mem_def {table : Table Row Clash} {row : Row} : row ∈ table ↔ row ∈ table.rows :=
  Iff.rfl

instance {table : Table Row Clash} {row : Row} [DecidableEq Row] : Decidable (row ∈ table) :=
  inferInstanceAs (Decidable (row ∈ table.rows))

/-- The table without rows. -/
def empty : Table Row Clash := ⟨[], .nil⟩

/-- The empty table holds nothing. -/
@[simp] theorem not_mem_empty {row : Row} : row ∉ (empty : Table Row Clash) := by
  simp [mem_def, empty]

/-- Two different rows of a table never clash, for a symmetric constraint. -/
theorem eq_of_clash [Std.Symm Clash] {table : Table Row Clash} {left right : Row}
    (hl : left ∈ table) (hr : right ∈ table) (clash : Clash left right)
    : left = right := by
  have symmetric : Std.Symm fun earlier later => ¬ Clash earlier later :=
    ⟨fun _ _ free back => free (Std.Symm.symm _ _ back)⟩
  by_contra different
  exact List.Pairwise.forall table.distinct hl hr different clash

-----------------------------------------------------------------------------------------
-- Deletes and updates
-----------------------------------------------------------------------------------------

/-- `DELETE` of the rows outside a condition. -/
def keep (table : Table Row Clash) (condition : Row → Bool) : Table Row Clash :=
  ⟨table.rows.filter condition, table.distinct.filter _⟩

@[simp] theorem rows_keep (table : Table Row Clash) (condition : Row → Bool)
    : (table.keep condition).rows = table.rows.filter condition :=
  rfl

/-- `UPDATE` of every row by a function that leaves the constrained columns. -/
def update (table : Table Row Clash) (change : Row → Row)
    (leaves : ∀ left right, Clash (change left) (change right) → Clash left right)
    : Table Row Clash :=
  ⟨table.rows.map change,
    List.pairwise_map.mpr
      (table.distinct.imp fun apart clash => apart (leaves _ _ clash))⟩

@[simp] theorem rows_update (table : Table Row Clash) (change : Row → Row)
    (leaves : ∀ left right, Clash (change left) (change right) → Clash left right)
    : (table.update change leaves).rows = table.rows.map change :=
  rfl

-----------------------------------------------------------------------------------------
-- Rows by key
-----------------------------------------------------------------------------------------

section Keyed

variable {Key : Type v} [DecidableEq Key] (key : Row → Key)

/-- The rows with another key. -/
def others (table : Table Row Clash) (k : Key) : List Row :=
  table.rows.filter fun row => key row ≠ k

variable {key}

/-- Where rows with one key clash, the rows with that key are the one that a search finds. -/
theorem filter_key {table : Table Row Clash}
    (keyed : ∀ left right, key left = key right → Clash left right) (k : Key)
    : table.rows.filter (fun row => key row = k)
      = (table.rows.find? fun row => key row = k).toList := by
  have distinct := table.distinct
  generalize table.rows = rows at distinct
  induction rows with
  | nil => rfl
  | cons row rest ih =>
      obtain ⟨apart, tail⟩ := List.pairwise_cons.mp distinct
      by_cases here : key row = k
      · have none : rest.filter (fun row => key row = k) = [] := by
          rw [List.filter_eq_nil_iff]
          intro later member same
          exact apart later member (keyed row later (here.trans (of_decide_eq_true same).symm))
        simp [here, none]
      · simpa [here] using ih tail

/-- The rows of a table are the one with a given key and the others. -/
theorem rows_perm {table : Table Row Clash}
    (keyed : ∀ left right, key left = key right → Clash left right) (k : Key)
    : table.rows.Perm
        ((table.rows.find? fun row => key row = k).toList ++ table.others key k) := by
  rw [← filter_key keyed]
  have split := List.filter_append_perm (fun row => decide (key row = k)) table.rows
  simp only [← decide_not] at split
  exact split.symm

/-- A view that maps each row to entries under its key, without the entries of one key, is the view
of the other rows.
-/
theorem filter_flatMap_key {Entry : Type w} {view : Row → List Entry} (key : Row → Key)
    (entryKey : Entry → Key)
    (keyed : ∀ row, ∀ entry ∈ view row, entryKey entry = key row) {rows : List Row} {k : Key}
    : (rows.flatMap view).filter (fun entry => entryKey entry ≠ k)
      = (rows.filter fun row => key row ≠ k).flatMap view := by
  induction rows with
  | nil => rfl
  | cons row rest ih =>
      rw [List.flatMap_cons, List.filter_append, ih]
      by_cases here : key row = k
      · have gone : (view row).filter (fun entry => entryKey entry ≠ k) = [] := by
          rw [List.filter_eq_nil_iff]
          intro entry member
          simp [keyed row entry member, here]
        rw [gone, List.filter_cons_of_neg (by simpa using here), List.nil_append]
      · have all : (view row).filter (fun entry => entryKey entry ≠ k) = view row := by
          rw [List.filter_eq_self]
          intro entry member
          simp [keyed row entry member, here]
        rw [all, List.filter_cons_of_pos (by simpa using here), List.flatMap_cons]

end Keyed

-----------------------------------------------------------------------------------------
-- Ignoring inserts
-----------------------------------------------------------------------------------------

variable [DecidableRel Clash]

/-- `INSERT OR IGNORE`: the new row is appended unless a held row clashes with it. -/
def insertOrIgnore (table : Table Row Clash) (row : Row) : Table Row Clash :=
  if free : ∀ held ∈ table.rows, ¬ Clash held row then
    ⟨table.rows ++ [row],
      List.pairwise_append.mpr
        ⟨table.distinct, by simp, fun held member new here => by
          obtain rfl : new = row := by simpa using here
          exact free held member⟩⟩
  else table

/-- An insert without a clash appends the row. -/
theorem insertOrIgnore_free {table : Table Row Clash} {row : Row}
    (free : ∀ held ∈ table, ¬ Clash held row)
    : (table.insertOrIgnore row).rows = table.rows ++ [row] := by
  have free' : ∀ held ∈ table.rows, ¬ Clash held row := free
  rw [insertOrIgnore, dif_pos free']

/-- An insert that clashes with a held row changes nothing. -/
theorem insertOrIgnore_clash {table : Table Row Clash} {row held : Row}
    (member : held ∈ table) (clash : Clash held row)
    : table.insertOrIgnore row = table := by
  rw [insertOrIgnore, dif_neg fun free => free held member clash]

/-- A row that is not free of clashes clashes with a held row. -/
private theorem exists_clash {Clash : Row → Row → Prop} {table : Table Row Clash} {row : Row}
    (taken : ¬ ∀ held ∈ table, ¬ Clash held row)
    : ∃ held ∈ table, Clash held row := by
  simpa only [not_forall, not_not, exists_prop] using taken

/-- What an insert leaves in the table: the held rows, and the new row if it clashed with
none of them.
-/
theorem mem_insertOrIgnore {table : Table Row Clash} {row found : Row}
    : found ∈ table.insertOrIgnore row
      ↔ found ∈ table ∨ found = row ∧ ∀ held ∈ table, ¬ Clash held row := by
  by_cases free : ∀ held ∈ table, ¬ Clash held row
  · rw [mem_def, insertOrIgnore_free free]
    simp only [List.mem_append, List.mem_singleton, mem_def]
    exact or_congr_right ⟨fun same => ⟨same, free⟩, And.left⟩
  · obtain ⟨held, member, clash⟩ := exists_clash free
    rw [insertOrIgnore_clash member clash]
    exact ⟨Or.inl, fun either => either.elim id fun new => absurd new.2 free⟩

/-- Inserts never remove rows. -/
theorem mem_insertOrIgnore_of_mem {table : Table Row Clash} {row found : Row}
    (member : found ∈ table)
    : found ∈ table.insertOrIgnore row :=
  mem_insertOrIgnore.mpr (.inl member)

/-- After an insert the table holds the new row or a row it clashes with. -/
theorem insertOrIgnore_covers [Std.Refl Clash] (table : Table Row Clash) (row : Row)
    : ∃ held ∈ table.insertOrIgnore row, Clash held row := by
  by_cases free : ∀ held ∈ table, ¬ Clash held row
  · exact ⟨row, mem_insertOrIgnore.mpr (.inr ⟨rfl, free⟩), Std.Refl.refl row⟩
  · obtain ⟨held, member, clash⟩ := exists_clash free
    exact ⟨held, mem_insertOrIgnore_of_mem member, clash⟩

/-- Inserts rows one after another. -/
def insertAll (table : Table Row Clash) (rows : List Row) : Table Row Clash :=
  rows.foldl insertOrIgnore table

/-- A sequence of inserts keeps every held row, by induction on the sequence. -/
theorem mem_insertAll_of_mem {table : Table Row Clash} {rows : List Row} {found : Row}
    (member : found ∈ table)
    : found ∈ table.insertAll rows := by
  induction rows generalizing table with
  | nil => exact member
  | cons row rest ih => exact ih (mem_insertOrIgnore_of_mem member)

/-- After a sequence of inserts the table holds each of its rows or one that it clashes with. -/
theorem insertAll_covers [Std.Refl Clash] {table : Table Row Clash} {rows : List Row} {row : Row}
    (member : row ∈ rows)
    : ∃ held ∈ table.insertAll rows, Clash held row := by
  induction rows generalizing table with
  | nil => simp at member
  | cons first rest ih =>
      rcases List.mem_cons.mp member with rfl | later
      · obtain ⟨held, inside, clash⟩ := insertOrIgnore_covers table row
        have kept : held ∈ (table.insertOrIgnore row).insertAll rest :=
          mem_insertAll_of_mem inside
        exact ⟨held, kept, clash⟩
      · exact ih later

/-- A sequence of inserts adds only rows of the sequence. -/
theorem mem_or_mem_of_mem_insertAll {table : Table Row Clash} {rows : List Row} {found : Row}
    (member : found ∈ table.insertAll rows)
    : found ∈ table ∨ found ∈ rows := by
  induction rows generalizing table with
  | nil => exact .inl member
  | cons row rest ih =>
      rcases ih member with held | later
      · rcases mem_insertOrIgnore.mp held with held | ⟨rfl, _⟩
        · exact .inl held
        · exact .inr List.mem_cons_self
      · exact .inr (List.mem_cons_of_mem _ later)

/-- The rows a sequence of pairwise compatible inserts adds are exactly those that clash with
no held row, in their order. Witness: induction on the sequence; an inserted row clashes with
none of the later ones.
-/
theorem insertAll_rows {table : Table Row Clash} {rows : List Row}
    (compatible : rows.Pairwise fun earlier later => ¬ Clash earlier later)
    : (table.insertAll rows).rows
      = table.rows ++ rows.filter fun row => ∀ held ∈ table.rows, ¬ Clash held row := by
  induction rows generalizing table with
  | nil => simp [insertAll]
  | cons row rest ih =>
      obtain ⟨head, tail⟩ := List.pairwise_cons.mp compatible
      have step : (table.insertAll (row :: rest)) = (table.insertOrIgnore row).insertAll rest :=
        rfl
      rw [step, ih tail]
      by_cases free : ∀ held ∈ table.rows, ¬ Clash held row
      · have keeps
            : ∀ later ∈ rest,
                decide (∀ held ∈ (table.insertOrIgnore row).rows, ¬ Clash held later)
                = decide (∀ held ∈ table.rows, ¬ Clash held later) := by
          intro later member
          rw [insertOrIgnore_free free]
          simp [head later member, or_imp, forall_and]
        rw [List.filter_congr keeps, insertOrIgnore_free free, List.filter_cons_of_pos
          (by simpa using free), List.append_assoc, List.singleton_append]
      · obtain ⟨held, member, clash⟩ := exists_clash free
        rw [insertOrIgnore_clash member clash, List.filter_cons_of_neg (by simpa using free)]

-----------------------------------------------------------------------------------------
-- Updating inserts
-----------------------------------------------------------------------------------------

section Upsert

variable {Key : Type v} [DecidableEq Key] (key : Row → Key)

/-- `INSERT … ON CONFLICT(key) DO UPDATE`: the new row takes the place of the row with its key;
`none` when it clashes with another row. Row order carries no meaning, the new row comes last.
-/
def upsert? (table : Table Row Clash) (row : Row) : Option (Table Row Clash) :=
  if free : ∀ held ∈ table.others key (key row), ¬ Clash held row then
    some
      ⟨table.others key (key row) ++ [row],
        List.pairwise_append.mpr
          ⟨table.distinct.filter _, by simp, fun held member new here => by
            obtain rfl : new = row := by simpa using here
            exact free held member⟩⟩
  else none

variable {key}

/-- A successful update leaves the rows with other keys, and the new row. -/
theorem upsert?_eq_some {table next : Table Row Clash} {row : Row}
    (updated : table.upsert? key row = some next)
    : next.rows = table.others key (key row) ++ [row] := by
  unfold upsert? at updated
  split at updated
  next => exact (congrArg rows (Option.some.inj updated)).symm
  next => cases updated

end Upsert

end Table

end CtxRemote.Library
