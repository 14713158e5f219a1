import Mathlib.Data.Option.Basic

/-! Conditions of SQL: a condition is true, false or unknown, a comparison with NULL is unknown, and a
row is selected where its condition is true.
-/

namespace CtxRemote.Library

universe u

/-- A condition, unknown where it is `none`. -/
abbrev Condition : Type := Option Bool

namespace Condition

variable {α : Type u}

/-- The condition is true. -/
def holds (condition : Condition) : Bool := condition = some true

/-- `AND`. -/
def both : Condition → Condition → Condition
  | some false, _ => some false
  | some true, right => right
  | none, some false => some false
  | none, _ => none

/-- `OR`. -/
def either : Condition → Condition → Condition
  | some true, _ => some true
  | some false, right => right
  | none, some true => some true
  | none, _ => none

/-- `NOT`. -/
def negated (condition : Condition) : Condition := condition.map (!·)

/-- `=`. -/
def equal [DecidableEq α] (left right : Option α) : Condition :=
  left.bind fun left => right.map fun right => decide (left = right)

/-- `!=`. -/
def differ [DecidableEq α] (left right : Option α) : Condition := (equal left right).negated

/-- `>`. -/
def exceeds (left right : Option Int) : Condition :=
  left.bind fun left => right.map fun right => decide (right < left)

/-- `IS NULL`. -/
def isNull (value : Option α) : Condition := some value.isNone

/-- `IS NOT`, between values. -/
def isNot [DecidableEq α] (left right : Option α) : Condition := some (decide (left ≠ right))

/-- `EXISTS`. -/
def exist (rows : List α) : Condition := some !rows.isEmpty

@[simp] theorem holds_some (value : Bool) : holds (some value) = value := by
  cases value <;> rfl

@[simp] theorem holds_none : holds none = false := rfl

/-- `AND` selects what both conditions select. -/
@[simp] theorem holds_both (left right : Condition)
    : (left.both right).holds = (left.holds && right.holds) := by
  rcases left with _ | _ | _ <;> rcases right with _ | _ | _ <;> rfl

/-- `OR` selects what one of the conditions selects. -/
@[simp] theorem holds_either (left right : Condition)
    : (left.either right).holds = (left.holds || right.holds) := by
  rcases left with _ | _ | _ <;> rcases right with _ | _ | _ <;> rfl

@[simp] theorem holds_equal [DecidableEq α] (left : Option α) (right : α)
    : (equal left (some right)).holds = decide (left = some right) := by
  cases left <;> simp [equal]

/-- `!=` selects what has another value, and no value is not another one. -/
@[simp] theorem holds_differ [DecidableEq α] (left : Option α) (right : α)
    : (differ left (some right)).holds = (left.isSome && !decide (left = some right)) := by
  cases left <;> simp [differ, equal, negated]

@[simp] theorem holds_exceeds (left right : Int)
    : (exceeds (some left) (some right)).holds = decide (right < left) := by
  simp [exceeds]

@[simp] theorem holds_isNull (value : Option α) : (isNull value).holds = value.isNone := holds_some _

/-- `NOT EXISTS` selects what `EXISTS` does not select. -/
@[simp] theorem holds_negated_exist (rows : List α)
    : (exist rows).negated.holds = !(exist rows).holds := by
  cases rows <;> rfl

end Condition

end CtxRemote.Library
