/-
  Criteria/Condition.lean
  =======================
  **Conditions.**  One constraint on one field: an operator, the value type that
  its values are read as, and the operands.  A condition is taken as given; its
  normal form has the operands its operator uses, in native form, and exists
  only if they can be read so.

  `Condition.make` mirrors `try_new`, `Condition.normalized` mirrors `normalized`.
-/
import Criteria.Value.Coercion
import Criteria.Value.Tokens

namespace Criteria

structure Condition where
  /-- The field or column. -/
  identifier : String
  valueType : ValueType
  operator : Operator
  operand : Option Value := none
  /-- A second operand; it is read with the first, and no operator uses it. -/
  secondary : Option Value := none
  deriving DecidableEq, Repr

namespace Condition

def nullary (identifier : String) (valueType : ValueType) (operator : Operator) : Condition :=
  { identifier, valueType, operator }

/-- The primary operand in native form; an absent one and a null are both missing. -/
def primary (c : Condition) : Except ConditionError Value :=
  match c.operand with
  | none | some .null => .error (.missingOperand c.operator c.identifier)
  | some v => c.valueType.coerce v

def second (c : Condition) : Except ConditionError (Option Value) :=
  match c.secondary with
  | none => .ok none
  | some v => (c.valueType.coerce v).map some

/-- The normal form: no operands under a nullary operator, native operands under any other. -/
def normalized (c : Condition) : Except ConditionError Condition :=
  match c.operator.arity with
  | .nullary => .ok { c with operand := none, secondary := none }
  | .unary | .multiValue => do
    let first ← c.primary
    let second ← c.second
    return { c with operand := some first, secondary := second }

def make (identifier : String) (valueType : ValueType) (operator : Operator) (operand : Value) :
    Except ConditionError Condition :=
  normalized { identifier, valueType, operator, operand := some operand }

def withSecondary (c : Condition) (v : Value) : Except ConditionError Condition :=
  normalized { c with secondary := some v }

def isSupported (c : Condition) : Bool := c.operator.supports c.valueType

/-- The tokens of a text operand; no other operand has any. -/
def tokens (c : Condition) : List String :=
  match c.operand with
  | some (.text s) => Criteria.tokens s
  | _ => []

end Condition

end Criteria
