/-
  Criteria/Condition/Error.lean
  =============================
  **What can be wrong with a condition or with a field it reads.**  Each error
  says its cause; the wording is in one function per type.
-/
import Criteria.Condition.Operator
import Criteria.Value

namespace Criteria

/-- Why a value cannot be read as a value type. -/
inductive Misfit where
  /-- A number without a finite magnitude. -/
  | notFinite (x : Binary64)
  /-- A text that writes no number. -/
  | notANumber (s : String)
  /-- A text that writes no date-time. -/
  | notADateTime (s : String)
  /-- A value of a kind that the type never reads. -/
  | wrongKind (v : Value)
  deriving DecidableEq, Repr

def Misfit.message : Misfit → String
  | notFinite x => String.ofList (x.text .plain) ++ " is not a finite number"
  | notANumber s => "'" ++ s ++ "' is not a number"
  | notADateTime s => "'" ++ s ++ "' is not a date-time"
  | wrongKind v => "cannot read a " ++ v.kindName ++ " value"

inductive ConditionError where
  /-- A value that does not fit its type. -/
  | invalidValue (valueType : ValueType) (why : Misfit)
  /-- An operator that needs an operand has none. -/
  | missingOperand (operator : Operator) (field : String)
  | unknownOperator (name : String)
  | unknownValueType (name : String)
  deriving DecidableEq, Repr

def ConditionError.message : ConditionError → String
  | invalidValue t why => "Invalid value for " ++ t.name ++ ": " ++ why.message
  | missingOperand o field =>
    "Operator " ++ o.name ++ " requires an operand for field '" ++ field ++ "'"
  | unknownOperator name => "Unknown operator: " ++ name
  | unknownValueType name => "Unknown value type: " ++ name

end Criteria
