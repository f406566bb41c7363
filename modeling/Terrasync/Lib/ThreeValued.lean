import Mathlib.Data.Bool.Basic

/-! Three-valued conditions over nullable columns: a comparison with a null is unknown,
a filter keeps a row only when its condition is true. -/

set_option autoImplicit false

namespace Terrasync.Lib

/-- A condition that may be unknown. -/
abbrev Truth := Option Bool

namespace Truth

def not (condition : Truth) : Truth := condition.map (!·)

def and : Truth → Truth → Truth
  | some false, _ => some false
  | _, some false => some false
  | some true, second => second
  | none, _ => none

def or : Truth → Truth → Truth
  | some true, _ => some true
  | _, some true => some true
  | some false, second => second
  | none, _ => none

variable {Value : Type} [DecidableEq Value]

/-- Equality of nullable columns. -/
def equal (first second : Option Value) : Truth :=
  first.bind fun left => second.map fun right => decide (left = right)

def isNull (column : Option Value) : Truth := some column.isNone

/-- `ifNull(condition, fallback)`. -/
def ifNull : Truth → Truth → Truth
  | some known, _ => some known
  | none, fallback => fallback

/-- The condition of a `WHERE` clause. -/
def Holds (condition : Truth) : Prop := condition = some true

instance (condition : Truth) : Decidable condition.Holds := inferInstanceAs (Decidable (_ = _))

@[simp] theorem not_some (condition : Bool) : not (some condition) = some !condition := rfl

@[simp] theorem and_some (first second : Bool) :
    and (some first) (some second) = some (first && second) := by
  cases first <;> cases second <;> rfl

@[simp] theorem or_some (first second : Bool) : or (some first) (some second) = some (first || second) := by
  cases first <;> cases second <;> rfl

@[simp] theorem holds_some (condition : Bool) : Holds (some condition) ↔ condition = true :=
  Option.some_inj

@[simp] theorem equal_some (first second : Value) :
    equal (some first) (some second) = some (decide (first = second)) := rfl

/-- An equality that two nulls satisfy and a single null refutes is never unknown. -/
@[simp] theorem ifNull_equal (first second : Option Value) :
    ifNull (equal first second) (and (isNull first) (isNull second)) = some (decide (first = second)) := by
  cases first <;> cases second <;> simp [ifNull, equal, isNull]

end Truth

end Terrasync.Lib
