/-
  Criteria/Value/Coercion.lean
  ============================
  **Reading a value as a value type.**  Each type has one native form: texts for
  the textual types, finite numbers, date-times.  A value of another kind is
  brought into that form if it writes one and refused otherwise; a null stays
  null under every type.

  `ValueType.coerce` mirrors `coerce`.
-/
import Criteria.Calendar.Reading
import Criteria.Condition.Error
import Criteria.Number.Reading

namespace Criteria.ValueType

/-- A number that numeric values can hold. -/
def finite (x : Binary64) : Except Misfit Value :=
  if x.isFinite then .ok (.number x) else .error (.notFinite x)

/-- The native form of a value, or why it has none. -/
def native (t : ValueType) (v : Value) : Except Misfit Value :=
  match v, t with
  | .null, _ => .ok .null
  | v, .text | v, .longText | v, .commaSplit => .ok (.text v.literal)
  | .number x, .numeric => finite x
  | .text s, .numeric =>
    match Binary64.read? (Text.trim s.toList) with
    | some x => finite x
    | none => .error (.notANumber s)
  | .time d, .time => .ok (.time d)
  | .text s, .time =>
    match Calendar.readDateTime s.toList with
    | some d => .ok (.time d)
    | none => .error (.notADateTime s)
  | v, _ => .error (.wrongKind v)

def coerce (t : ValueType) (v : Value) : Except ConditionError Value :=
  (t.native v).mapError (.invalidValue t)

end Criteria.ValueType
