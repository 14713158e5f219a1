import Mathlib.Data.List.Nodup

/-! Lookups that must find one row: `SELECT … WHERE … LIMIT 2`, which tells no row, one row and
several rows apart.
-/

namespace CtxRemote.Library

universe u

/-- What a lookup that reads at most two rows learns. -/
inductive Lookup (Row : Type u)
  | missing
  | only (row : Row)
  | several

variable {Row : Type u}

/-- `SELECT … WHERE … LIMIT 2`. -/
def lookup (matching : Row → Bool) (rows : List Row) : Lookup Row :=
  match (rows.filter matching).take 2 with
  | [] => .missing
  | [row] => .only row
  | _ => .several

/-- A lookup among what rows are mapped to. -/
def Lookup.map {Other : Type*} (view : Row → Other) : Lookup Row → Lookup Other
  | .missing => .missing
  | .only row => .only (view row)
  | .several => .several

variable {matching : Row → Bool} {rows : List Row} {row : Row}

theorem lookup_map {Other : Type*} (view : Other → Row) (rows : List Other)
    : lookup matching (rows.map view) = (lookup (fun row => matching (view row)) rows).map view := by
  have found : (rows.map view).filter matching
      = (rows.filter fun row => matching (view row)).map view := List.filter_map
  unfold lookup
  rw [found]
  rcases rows.filter fun row => matching (view row) with _ | ⟨first, _ | ⟨second, rest⟩⟩ <;> rfl

theorem lookup_eq_missing
    : lookup matching rows = .missing ↔ ∀ row ∈ rows, matching row = false := by
  unfold lookup
  rcases found : rows.filter matching with _ | ⟨first, _ | ⟨second, rest⟩⟩
  · simpa using found
  all_goals
    have accepted := List.mem_filter.mp (found ▸ List.mem_cons_self : first ∈ rows.filter matching)
    simpa using ⟨first, accepted⟩

/-- A lookup that finds one row read the only one that matches. -/
theorem lookup_eq_only
    : lookup matching rows = .only row ↔ rows.filter matching = [row] := by
  unfold lookup
  rcases rows.filter matching with _ | ⟨first, _ | ⟨second, rest⟩⟩ <;> simp

/-- Among rows without repetition, a lookup finds the only row that matches. -/
theorem lookup_eq_only_iff (once : rows.Nodup)
    : lookup matching rows = .only row
      ↔ row ∈ rows ∧ matching row = true ∧ ∀ other ∈ rows, matching other = true → other = row := by
  rw [lookup_eq_only]
  constructor
  · intro found
    have iff (other : Row) : other ∈ rows ∧ matching other = true ↔ other = row := by
      rw [← List.mem_filter, found, List.mem_singleton]
    obtain ⟨member, accepted⟩ := (iff row).mpr rfl
    exact ⟨member, accepted, fun other inside found => (iff other).mp ⟨inside, found⟩⟩
  · rintro ⟨member, accepted, only⟩
    have kept : (rows.filter matching).Nodup := once.filter _
    refine List.perm_singleton.mp ?_
    refine (List.perm_ext_iff_of_nodup kept (List.nodup_singleton row)).mpr fun other => ?_
    rw [List.mem_filter, List.mem_singleton]
    constructor
    · exact fun ⟨inside, found⟩ => only other inside found
    · rintro rfl
      exact ⟨member, accepted⟩

/-- A row that matches is the only one exactly if all that match have its key. -/
theorem lookup_eq_only_iff_key {Key : Type*} {key : Row → Key} (unique : (rows.map key).Nodup)
    (member : row ∈ rows) (accepted : matching row = true)
    : lookup matching rows = .only row
      ↔ ∀ other ∈ rows, matching other = true → key other = key row := by
  rw [lookup_eq_only_iff unique.of_map]
  constructor
  · exact fun ⟨_, _, only⟩ other inside found => congrArg key (only other inside found)
  · exact fun same => ⟨member, accepted, fun other inside found =>
      List.inj_on_of_nodup_map unique inside member (same other inside found)⟩

/-- Two different rows that match are several. -/
theorem lookup_eq_several_iff (once : rows.Nodup)
    : lookup matching rows = .several
      ↔ ∃ left ∈ rows, ∃ right ∈ rows,
          matching left = true ∧ matching right = true ∧ left ≠ right := by
  constructor
  · intro several
    unfold lookup at several
    rcases found : rows.filter matching with _ | ⟨first, _ | ⟨second, rest⟩⟩
    · simp [found] at several
    · simp [found] at several
    · have kept : (first :: second :: rest).Nodup := found ▸ once.filter _
      obtain ⟨left, leftAccepted⟩ := List.mem_filter.mp (found ▸ List.mem_cons_self)
      obtain ⟨right, rightAccepted⟩ :=
        List.mem_filter.mp (found ▸ List.mem_cons_of_mem _ List.mem_cons_self)
      refine ⟨first, left, second, right, leftAccepted, rightAccepted, ?_⟩
      rintro rfl
      simp at kept
  · rintro ⟨left, inLeft, right, inRight, leftAccepted, rightAccepted, different⟩
    cases found : lookup matching rows with
    | missing => simp [lookup_eq_missing.mp found left inLeft] at leftAccepted
    | only row =>
        obtain ⟨-, -, only⟩ := (lookup_eq_only_iff once).mp found
        exact absurd ((only left inLeft leftAccepted).trans (only right inRight rightAccepted).symm)
          different
    | several => rfl

end CtxRemote.Library
