import CtxRemote.Library.Newest
import Mathlib.Data.List.Dedup
import Mathlib.Data.List.Induction
import Mathlib.Data.List.Nodup

/-! Rows in groups, ranked by the best row of each group. The first groups of a ranking can be read
off the nearest rows alone, once those have enough groups.
-/

namespace CtxRemote.Library

universe u v w

variable {Row : Type u} {Group : Type v} {Score : Type w} [LinearOrder Score]
  (group : Row → Group) (score : Row → Score)

-----------------------------------------------------------------------------------------
-- Rankings
-----------------------------------------------------------------------------------------

/-- No row of its group has a larger score. -/
def Best (rows : List Row) (row : Row) : Prop :=
  row ∈ rows ∧ ∀ other ∈ rows, group other = group row → score other ≤ score row

/-- A best row of each group, largest score first. -/
structure Ranking (rows ranked : List Row) : Prop where
  best : ∀ row ∈ ranked, Best group score rows row
  distinct : (ranked.map group).Nodup
  covers : ∀ row ∈ rows, group row ∈ ranked.map group
  sorted : ranked.Pairwise fun left right => score right ≤ score left

/-- The first rows of a ranking. Which of the groups with equal scores come first is left open. -/
def TopGroups (rows : List Row) (limit : Nat) (top : List Row) : Prop :=
  ∃ ranked, Ranking group score rows ranked ∧ top = ranked.take limit

variable {group score}

/-- The best rows of the same rows in another order are best. -/
theorem Best.perm {left right : List Row} {row : Row} (same : left.Perm right)
    (best : Best group score left row)
    : Best group score right row :=
  ⟨same.mem_iff.mp best.1, fun other inside => best.2 other (same.mem_iff.mpr inside)⟩

theorem Ranking.perm {left right ranked : List Row} (same : left.Perm right)
    (ranking : Ranking group score left ranked)
    : Ranking group score right ranked :=
  ⟨fun row inside => (ranking.best row inside).perm same, ranking.distinct,
    fun row inside => ranking.covers row (same.mem_iff.mpr inside), ranking.sorted⟩

theorem TopGroups.perm {left right top : List Row} {limit : Nat} (same : left.Perm right)
    (found : TopGroups group score left limit top)
    : TopGroups group score right limit top := by
  obtain ⟨ranked, ranking, rfl⟩ := found
  exact ⟨ranked, ranking.perm same, rfl⟩

/-- The groups of a ranking with their scores are those of every other ranking. -/
theorem Ranking.mem_scores {rows left right : List Row} (first : Ranking group score rows left)
    (second : Ranking group score rows right) {entry : Group × Score}
    (member : entry ∈ left.map fun row => (group row, score row))
    : entry ∈ right.map fun row => (group row, score row) := by
  obtain ⟨row, inside, rfl⟩ := List.mem_map.mp member
  have best := first.best row inside
  obtain ⟨other, present, same⟩ := List.mem_map.mp (second.covers row best.1)
  have otherBest := second.best other present
  have equal : score other = score row :=
    le_antisymm (best.2 other otherBest.1 same) (otherBest.2 row best.1 same.symm)
  exact List.mem_map.mpr ⟨other, present, by rw [same, equal]⟩

/-- All rankings of the same rows have the same scores, in the same order. -/
theorem Ranking.scores_eq {rows left right : List Row} (first : Ranking group score rows left)
    (second : Ranking group score rows right)
    : left.map score = right.map score := by
  have distinct {ranked : List Row} (ranking : Ranking group score rows ranked)
      : (ranked.map fun row => (group row, score row)).Nodup := by
    refine List.Nodup.of_map Prod.fst ?_
    rw [List.map_map]
    exact ranking.distinct
  have sameEntries
      : (left.map fun row => (group row, score row)).Perm
          (right.map fun row => (group row, score row)) :=
    (List.perm_ext_iff_of_nodup (distinct first) (distinct second)).mpr fun _ =>
      ⟨first.mem_scores second, second.mem_scores first⟩
  have sameScores : (left.map score).Perm (right.map score) := by
    simpa only [List.map_map, Function.comp_def] using sameEntries.map Prod.snd
  have sorted {ranked : List Row} (ranking : Ranking group score rows ranked)
      : (ranked.map score).Pairwise fun upper lower => lower ≤ upper :=
    List.pairwise_map.mpr ranking.sorted
  exact sameScores.eq_of_pairwise (fun _ _ _ _ below above => le_antisymm above below)
    (sorted first) (sorted second)

theorem TopGroups.scores_eq {rows left right : List Row} {limit : Nat}
    (first : TopGroups group score rows limit left)
    (second : TopGroups group score rows limit right)
    : left.map score = right.map score := by
  obtain ⟨_, ranking, rfl⟩ := first
  obtain ⟨_, other, rfl⟩ := second
  rw [List.map_take, List.map_take, ranking.scores_eq other]

-----------------------------------------------------------------------------------------
-- The best row of each group
-----------------------------------------------------------------------------------------

variable [DecidableEq Group] (group score)

/-- One more row for the best rows so far: it takes the place of a row of its group if its score is
larger.
-/
def keepBetter : List Row → Row → List Row
  | [], row => [row]
  | held :: rest, row =>
      if group held = group row then (if score held < score row then row else held) :: rest
      else held :: keepBetter rest row

/-- The best row of each group, the first of them where several are. -/
def bestByGroup (rows : List Row) : List Row := rows.foldl (keepBetter group score) []

variable {group score}

/-- The groups of the best rows, with one more row. Witness: induction on the best rows. -/
theorem map_keepBetter (best : List Row) (row : Row)
    : (keepBetter group score best row).map group
      = if group row ∈ best.map group then best.map group else best.map group ++ [group row] := by
  induction best with
  | nil => rfl
  | cons held rest ih =>
      unfold keepBetter
      by_cases same : group held = group row
      · rw [if_pos same]
        split <;> simp [same]
      · rw [if_neg same, List.map_cons, ih]
        by_cases inside : group row ∈ rest.map group
        · simp [inside]
        · simp [inside, Ne.symm same]

/-- A row of the next best rows is the new one, or was there and is not worse. -/
theorem mem_keepBetter {best : List Row} {row found : Row}
    (distinct : (best.map group).Nodup) (member : found ∈ keepBetter group score best row)
    : (found = row ∧ ∀ held ∈ best, group held = group row → score held ≤ score row)
      ∨ (found ∈ best ∧ (group found = group row → score row ≤ score found)) := by
  induction best with
  | nil => exact .inl ⟨List.mem_singleton.mp member, fun _ inside => by cases inside⟩
  | cons held rest ih =>
      rw [List.map_cons, List.nodup_cons] at distinct
      unfold keepBetter at member
      by_cases same : group held = group row
      · rw [if_pos same] at member
        have away (other : Row) (inside : other ∈ rest) : group other ≠ group row := by
          intro equal
          exact distinct.1 (same.trans equal.symm ▸ List.mem_map_of_mem inside)
        rcases List.mem_cons.mp member with rfl | later
        · split
          next larger =>
              refine .inl ⟨rfl, fun other inside equal => ?_⟩
              rcases List.mem_cons.mp inside with rfl | inside
              · exact larger.le
              · exact absurd equal (away other inside)
          next smaller => exact .inr ⟨List.mem_cons_self, fun _ => not_lt.mp smaller⟩
        · exact .inr ⟨List.mem_cons_of_mem _ later, fun equal => absurd equal (away found later)⟩
      · rw [if_neg same] at member
        rcases List.mem_cons.mp member with rfl | later
        · exact .inr ⟨List.mem_cons_self, fun equal => absurd equal same⟩
        · rcases ih distinct.2 later with ⟨rfl, above⟩ | ⟨inside, above⟩
          · refine .inl ⟨rfl, fun other inside equal => ?_⟩
            rcases List.mem_cons.mp inside with rfl | inside
            · exact absurd equal same
            · exact above other inside equal
          · exact .inr ⟨List.mem_cons_of_mem _ inside, above⟩

variable (group score) in
/-- What the scan of the rows has found: every group once, by a best row. Witness: induction on the
rows, from the last one.
-/
theorem bestByGroup_spec (rows : List Row)
    : ((bestByGroup group score rows).map group).Nodup
      ∧ (∀ row ∈ bestByGroup group score rows, Best group score rows row)
      ∧ ∀ key, key ∈ (bestByGroup group score rows).map group ↔ key ∈ rows.map group := by
  induction rows using List.reverseRecOn with
  | nil => simp [bestByGroup]
  | append_singleton rows row ih =>
      obtain ⟨distinct, best, covers⟩ := ih
      have next
          : bestByGroup group score (rows ++ [row])
            = keepBetter group score (bestByGroup group score rows) row :=
        List.foldl_append
      rw [next]
      refine ⟨?_, fun found member => ?_, fun key => ?_⟩
      · rw [map_keepBetter]
        split
        next => exact distinct
        next absent =>
            rw [List.nodup_append_comm, List.singleton_append, List.nodup_cons]
            exact ⟨absent, distinct⟩
      · rcases mem_keepBetter distinct member with ⟨rfl, above⟩ | ⟨inside, above⟩
        · refine ⟨List.mem_append_right _ List.mem_cons_self, fun other present equal => ?_⟩
          rcases List.mem_append.mp present with early | last
          · have seen := (covers (group other)).mpr (List.mem_map_of_mem early)
            obtain ⟨held, inside, same⟩ := List.mem_map.mp seen
            have notWorse := (best held inside).2 other early same.symm
            exact notWorse.trans (above held inside (same.trans equal))
          · rw [List.mem_singleton.mp last]
        · refine ⟨List.mem_append_left _ (best found inside).1, fun other present equal => ?_⟩
          rcases List.mem_append.mp present with early | last
          · exact (best found inside).2 other early equal
          · rw [List.mem_singleton.mp last] at equal ⊢
            exact above equal.symm
      · rw [map_keepBetter, List.map_append, List.mem_append, ← covers key]
        split
        next inside =>
            refine ⟨.inl, fun present => present.elim id fun last => ?_⟩
            rwa [List.mem_singleton.mp last]
        next => rw [List.mem_append]; rfl

variable (group score) in
/-- The best rows, sorted, are a ranking. -/
theorem ranking_bestByGroup (rows : List Row)
    : Ranking group score rows (newestFirst score (bestByGroup group score rows)) := by
  obtain ⟨distinct, best, covers⟩ := bestByGroup_spec group score rows
  have sorted
      : (newestFirst score (bestByGroup group score rows)).Perm (bestByGroup group score rows) :=
    newestFirst_perm _
  exact
    { best := fun row inside => best row (sorted.mem_iff.mp inside)
      distinct := (sorted.map group).nodup_iff.mpr distinct
      covers := fun row inside =>
        (sorted.map group).mem_iff.mpr ((covers _).mpr (List.mem_map_of_mem inside))
      sorted := newestFirst_sorted _ }

theorem topGroups_newest (rows : List Row) (limit : Nat)
    : TopGroups group score rows limit (newest score limit (bestByGroup group score rows)) :=
  ⟨_, ranking_bestByGroup group score rows, rfl⟩

/-- As many rows as the limit asks for and there are groups. -/
theorem TopGroups.length_eq {rows top : List Row} {limit : Nat}
    (found : TopGroups group score rows limit top)
    : top.length = min limit (rows.map group).dedup.length := by
  obtain ⟨ranked, ranking, rfl⟩ := found
  have groups : (ranked.map group).Perm (rows.map group).dedup := by
    refine (List.perm_ext_iff_of_nodup ranking.distinct (List.nodup_dedup _)).mpr fun key => ?_
    rw [List.mem_dedup]
    constructor
    · intro inside
      obtain ⟨row, present, rfl⟩ := List.mem_map.mp inside
      exact List.mem_map_of_mem (ranking.best row present).1
    · intro inside
      obtain ⟨row, present, rfl⟩ := List.mem_map.mp inside
      exact ranking.covers row present
  rw [List.length_take, ← groups.length_eq, List.length_map]

-----------------------------------------------------------------------------------------
-- Rankings from the nearest rows
-----------------------------------------------------------------------------------------

/-- A selection holds the given number of rows, or all, and none that it leaves out is better. -/
def IsNearest (score : Row → Score) (rows : List Row) (count : Nat) (selected : List Row) : Prop :=
  ∃ rest, (selected ++ rest).Perm rows ∧ selected.length = min count rows.length
    ∧ ∀ row ∈ selected, ∀ other ∈ rest, score other ≤ score row

/-- The rows that come first by their scores are nearest. -/
theorem isNearest_newest (rows : List Row) (count : Nat)
    : IsNearest score rows count (newest score count rows) := by
  have sorted
      : (newestFirst score rows).Pairwise fun left right => score right ≤ score left :=
    newestFirst_sorted rows
  rw [← List.take_append_drop count (newestFirst score rows), List.pairwise_append] at sorted
  refine ⟨(newestFirst score rows).drop count, ?_, ?_, sorted.2.2⟩
  · rw [newest, List.take_append_drop]
    exact newestFirst_perm rows
  · rw [newest, List.length_take, (newestFirst_perm rows).length_eq]

/-- A ranking of the nearest rows, then one of the groups that have no row among them. -/
theorem ranking_nearest {near rest : List Row}
    (nearer : ∀ row ∈ near, ∀ other ∈ rest, score other ≤ score row)
    : Ranking group score (near ++ rest)
        (newestFirst score (bestByGroup group score near)
          ++ newestFirst score ((bestByGroup group score (near ++ rest)).filter fun row =>
            group row ∉ near.map group)) := by
  have first := ranking_bestByGroup group score near
  have all := bestByGroup_spec group score (near ++ rest)
  have mem_tail (row : Row)
      : row ∈ newestFirst score ((bestByGroup group score (near ++ rest)).filter fun row =>
            group row ∉ near.map group)
        ↔ row ∈ bestByGroup group score (near ++ rest) ∧ group row ∉ near.map group := by
    rw [(newestFirst_perm _).mem_iff, List.mem_filter, decide_eq_true_eq]
  -- a row of a group that is not near is not near itself
  have far {row : Row} (inside : row ∈ near ++ rest) (absent : group row ∉ near.map group)
      : row ∈ rest :=
    (List.mem_append.mp inside).resolve_left fun close => absent (List.mem_map_of_mem close)
  refine ⟨fun row inside => ?_, ?_, fun row inside => ?_, ?_⟩
  · rcases List.mem_append.mp inside with close | tail
    · have best := first.best row close
      refine ⟨List.mem_append_left _ best.1, fun other present same => ?_⟩
      rcases List.mem_append.mp present with early | late
      · exact best.2 other early same
      · exact nearer row best.1 other late
    · exact all.2.1 row ((mem_tail row).mp tail).1
  · rw [List.map_append]
    refine List.Nodup.append first.distinct ?_ ?_
    · refine ((newestFirst_perm _).map group).nodup_iff.mpr (all.1.sublist ?_)
      exact List.filter_sublist.map group
    · intro key close tail
      obtain ⟨row, inside, rfl⟩ := List.mem_map.mp tail
      obtain ⟨held, present, same⟩ := List.mem_map.mp close
      exact ((mem_tail row).mp inside).2 (same ▸ List.mem_map_of_mem (first.best held present).1)
  · rw [List.map_append, List.mem_append]
    by_cases close : group row ∈ near.map group
    · obtain ⟨held, present, same⟩ := List.mem_map.mp close
      exact .inl (same ▸ first.covers held present)
    · have covered := (all.2.2 (group row)).mpr (List.mem_map_of_mem inside)
      obtain ⟨held, present, same⟩ := List.mem_map.mp covered
      exact .inr (List.mem_map.mpr ⟨held, (mem_tail held).mpr ⟨present, same ▸ close⟩, same⟩)
  · refine List.pairwise_append.mpr ⟨first.sorted, newestFirst_sorted _, ?_⟩
    intro row close other tail
    obtain ⟨present, absent⟩ := (mem_tail other).mp tail
    exact nearer row (first.best row close).1 other (far (all.2.1 other present).1 absent)

/-- The nearest rows are enough, once they have as many groups as are asked for, or are all. -/
theorem topGroups_of_nearest {rows near : List Row} {count limit : Nat}
    (nearest : IsNearest score rows count near)
    (enough : limit ≤ (bestByGroup group score near).length ∨ near.length < count
      ∨ rows.length ≤ count)
    : TopGroups group score rows limit (newest score limit (bestByGroup group score near)) := by
  obtain ⟨rest, same, length, nearer⟩ := nearest
  have total : near.length + rest.length = rows.length := by
    rw [← List.length_append, same.length_eq]
  refine TopGroups.perm same ?_
  by_cases full : limit ≤ (bestByGroup group score near).length
  · refine ⟨_, ranking_nearest nearer, ?_⟩
    have long : limit ≤ (newestFirst score (bestByGroup group score near)).length :=
      full.trans (newestFirst_perm _).length_eq.ge
    rw [newest, List.take_append_of_le_length long]
  · have none : rest = [] := List.length_eq_zero_iff.mp (by omega)
    rw [none, List.append_nil]
    exact topGroups_newest near limit

end CtxRemote.Library
