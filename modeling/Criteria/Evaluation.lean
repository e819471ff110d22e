/-
  Criteria/Evaluation.lean
  ========================
  **Evaluation in memory.**  A condition is asked of a record at an instant in a
  zone.  It is answered when its operator is defined for its value type, the
  record has the field, and field and operands can be read; the first of these
  that fails is the error.  A relative day needs a date for today besides.  A list
  of conditions holds when every one does, and is asked from left to right up to
  the first that does not.

  `Condition.holds` mirrors `evaluate_predicate`, with `any_token_pair` and
  `same_relative_day`; `Condition.evaluate` mirrors `evaluate_one`.
-/
import Criteria.Calendar.Offset
import Criteria.Condition
import Criteria.Record

namespace Criteria

/-! ### Errors -/

inductive EvaluationError where
  /-- The record has no such field. -/
  | missingField (field : String)
  /-- The operator is not defined for the value type. -/
  | undefinedPairing (operator : Operator) (valueType : ValueType) (field : String)
  /-- A name that no store has. -/
  | unknownStore (name : String)
  /-- A name that no relational dialect has. -/
  | unknownDialect (name : String)
  /-- The field or an operand cannot be read. -/
  | condition (e : ConditionError)
  /-- The calendar has no date for today: the program stops here, and returns nothing. -/
  | panic
  deriving DecidableEq, Repr

def EvaluationError.message : EvaluationError → String
  | missingField field => "Validation error: record has no field '" ++ field ++ "'"
  | undefinedPairing o t field =>
    "Unsupported condition: " ++ o.name ++ " is not defined for " ++ t.name ++
      " (field '" ++ field ++ "')"
  | unknownStore name => "Unsupported backend: " ++ name
  | unknownDialect name => "Unsupported dialect: " ++ name
  | condition e => e.message
  | panic => "Local time out of range for `NaiveDateTime`"

/-! ### Predicates -/

/-- When and where a condition is asked. -/
structure Moment where
  /-- The instant, in universal time. -/
  now : DateTime
  /-- The zone in which days are counted. -/
  zone : Offset

def anyTokenPair (kind : MatchKind) (field operand : String) : Bool :=
  (tokens field).any fun s => (tokens operand).any fun t => kind.holds s t

def textsRelate (relation : String → String → Bool) : Value → Value → Bool
  | .text s, .text t => relation s t
  | _, _ => false

/-- Whether a value is a date-time on the day shifted from today. -/
def onDay (m : Moment) (days : Int64) : Value → Bool
  | .time t => m.now.shiftedToday m.zone days == some (some t.date)
  | _ => false

def present (field operand : Value) : Bool := !field.isNull && !operand.isNull && field.same operand

def Condition.holds (m : Moment) (c : Condition) (field : Value) : Bool :=
  let operand := c.operand.getD .null
  let negated := c.operator.isNegated
  match c.operator.family with
  | .nullCheck => field.isNull != negated
  | .equality => present field operand != negated
  | .ordering => ((field.order? operand).map c.operator.accepts).getD false
  | .relativeDay days => onDay m days field
  | .substring kind => textsRelate kind.holds field operand != negated
  | .anyToken kind => textsRelate (anyTokenPair kind) field operand != negated

/-- Whether a condition asks for today at a moment that has no date: only a date-time is asked
    for its day. -/
def Condition.panics (m : Moment) (c : Condition) : Value → Bool
  | .time _ => c.operator.isRelativeDate && (m.now.localDate? m.zone).isNone
  | _ => false

/-! ### Records -/

def Condition.fieldOf (c : Condition) (r : Record) : Except EvaluationError Value :=
  match r.field? c.identifier with
  | none => .error (.missingField c.identifier)
  | some v => (c.valueType.coerce v).mapError .condition

def Condition.evaluate (m : Moment) (c : Condition) (r : Record) : Except EvaluationError Bool :=
  if c.isSupported then do
    let field ← c.fieldOf r
    let c ← c.normalized.mapError .condition
    if c.panics m field then .error .panic else .ok (c.holds m field)
  else .error (.undefinedPairing c.operator c.valueType c.identifier)

/-- Whether every condition holds of its record; the first that does not, or has no answer,
    decides. -/
def evaluateAll (m : Moment) : List (Condition × Record) → Except EvaluationError Bool
  | [] => .ok true
  | (c, r) :: rest =>
    match c.evaluate m r with
    | .ok true => evaluateAll m rest
    | other => other

def evaluateRecord (m : Moment) (r : Record) (cs : List Condition) : Except EvaluationError Bool :=
  evaluateAll m (cs.map fun c => (c, r))

end Criteria
