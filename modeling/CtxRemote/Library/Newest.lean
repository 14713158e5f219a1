import Mathlib.Data.List.Sort

/-! Selection of the newest rows: `ORDER BY … DESC LIMIT`, and the merge of two selections. -/

namespace CtxRemote.Library

universe u v

variable {Row : Type u} {Key : Type v} [LinearOrder Key] (key : Row → Key)

/-- `ORDER BY` the key, largest first. Rows with equal keys keep their order. -/
def newestFirst (rows : List Row) : List Row :=
  rows.insertionSort fun left right => key right ≤ key left

/-- `ORDER BY` the key, largest first, `LIMIT`. -/
def newest (limit : Nat) (rows : List Row) : List Row := (newestFirst key rows).take limit

variable {key}

instance newestFirst_total : Std.Total fun left right : Row => key right ≤ key left :=
  ⟨fun left right => le_total (key right) (key left)⟩

instance newestFirst_trans : IsTrans Row fun left right => key right ≤ key left :=
  ⟨fun _ _ _ upper lower => lower.trans upper⟩

theorem newestFirst_perm (rows : List Row) : (newestFirst key rows).Perm rows :=
  List.perm_insertionSort _ rows

theorem newestFirst_sorted (rows : List Row)
    : (newestFirst key rows).Pairwise fun left right => key right ≤ key left :=
  List.pairwise_insertionSort _ rows

/-- The selected rows are newest first. -/
theorem newest_sorted (limit : Nat) (rows : List Row)
    : (newest key limit rows).Pairwise fun left right => key right ≤ key left :=
  (newestFirst_sorted rows).sublist (List.take_sublist _ _)

theorem mem_of_mem_newest {limit : Nat} {rows : List Row} {row : Row}
    (member : row ∈ newest key limit rows)
    : row ∈ rows :=
  (newestFirst_perm rows).mem_iff.mp (List.mem_of_mem_take member)

/-- Inserting a row into a stable merge inserts it into the left part. Witness: induction on
both parts, by the three comparisons that decide which row comes first.
-/
theorem orderedInsert_merge {order : Row → Row → Prop} [DecidableRel order]
    [Std.Total order] [IsTrans Row order] (row : Row) (left right : List Row)
    : (List.merge left right fun a b => order a b).orderedInsert order row
      = List.merge (left.orderedInsert order row) right fun a b => order a b := by
  induction left generalizing right with
  | nil =>
      induction right with
      | nil => simp
      | cons second rest ih =>
          by_cases before : order row second
          · simp [before]
          · simp only [List.nil_merge] at ih
            simp [before, ih]
  | cons first left ihl =>
      induction right with
      | nil => simp
      | cons second right ihr =>
          by_cases firstWins : order first second
          · by_cases before : order row first
            · have rowWins : order row second := IsTrans.trans _ _ _ before firstWins
              simp [firstWins, before, rowWins]
            · simp [firstWins, before, ihl]
          · have secondFirst : order second first :=
              (Std.Total.total first second).resolve_left firstWins
            by_cases before : order row first
            · by_cases rowWins : order row second
              · simp [firstWins, before, rowWins]
              · simp only [List.orderedInsert_cons, before, ↓reduceIte] at ihr
                simp [firstWins, before, rowWins, ihr]
            · have rowLoses : ¬ order row second :=
                fun wins => before (IsTrans.trans _ _ _ wins secondFirst)
              simp only [List.orderedInsert_cons, before, ↓reduceIte] at ihr
              simp [firstWins, before, rowLoses, ihr]

/-- Sorting joined rows merges the sorted parts, by induction on the first part. -/
theorem newestFirst_append (left right : List Row)
    : newestFirst key (left ++ right)
      = List.merge (newestFirst key left) (newestFirst key right)
          fun a b => key b ≤ key a := by
  induction left with
  | nil => simp [newestFirst]
  | cons row rest ih =>
      have insertRow (rows : List Row)
          : newestFirst key (row :: rows)
            = (newestFirst key rows).orderedInsert (fun a b => key b ≤ key a) row :=
        rfl
      rw [List.cons_append, insertRow, insertRow, ih]
      exact orderedInsert_merge row _ _

/-- The first rows of a merge come from the first rows of its parts, by induction on the
number of rows.
-/
theorem take_merge (order : Row → Row → Bool) {limit leftLimit rightLimit : Nat}
    (enoughLeft : limit ≤ leftLimit) (enoughRight : limit ≤ rightLimit)
    (left right : List Row)
    : (List.merge (left.take leftLimit) (right.take rightLimit) order).take limit
      = (List.merge left right order).take limit := by
  induction limit generalizing left right leftLimit rightLimit with
  | zero => simp
  | succ limit ih =>
      obtain ⟨leftLimit, rfl⟩ : ∃ rest, leftLimit = rest + 1 := ⟨leftLimit - 1, by omega⟩
      obtain ⟨rightLimit, rfl⟩ : ∃ rest, rightLimit = rest + 1 := ⟨rightLimit - 1, by omega⟩
      cases left with
      | nil => simp [List.take_take, Nat.min_eq_left enoughRight]
      | cons first left =>
          cases right with
          | nil => simp [List.take_take, Nat.min_eq_left (Nat.le_of_succ_le_succ enoughLeft)]
          | cons second right =>
              simp only [List.take_succ_cons, List.cons_merge_cons]
              by_cases firstWins : order first second
              · have later
                    : (List.merge (left.take leftLimit)
                          ((second :: right).take (rightLimit + 1)) order).take limit
                      = (List.merge left (second :: right) order).take limit :=
                  ih (by omega) (by omega) left (second :: right)
                simpa [firstWins] using later
              · have later
                    : (List.merge ((first :: left).take (leftLimit + 1))
                          (right.take rightLimit) order).take limit
                      = (List.merge (first :: left) right order).take limit :=
                  ih (by omega) (by omega) (first :: left) right
                simpa [firstWins] using later

/-- Two selections, merged and cut again, are the selection from all rows. -/
theorem newest_append (limit : Nat) (left right : List Row)
    : newest key limit (newest key limit left ++ newest key limit right)
      = newest key limit (left ++ right) := by
  have fixed (rows : List Row) : newestFirst key (newest key limit rows) = newest key limit rows :=
    List.Pairwise.insertionSort_eq (newest_sorted limit rows)
  calc newest key limit (newest key limit left ++ newest key limit right)
      = (List.merge (newest key limit left) (newest key limit right)
          fun a b => key b ≤ key a).take limit := by
        simp only [newest.eq_1 key limit (_ ++ _), newestFirst_append, fixed]
    _ = newest key limit (left ++ right) := by
        simp only [newest, newestFirst_append]
        exact take_merge _ le_rfl le_rfl _ _

end CtxRemote.Library
