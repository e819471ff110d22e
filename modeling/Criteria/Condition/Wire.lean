/-
  Criteria/Condition/Wire.lean
  ============================
  **Conditions as JSON.**  A condition is an object with its parts in a fixed
  order, absent operands left out.  It is read back from an object in any order
  with unknown keys, or from an array of its parts in order.  An operand is a
  null, a number or a text; a date-time is written as text and is a text again
  until the condition is normalised.
-/
import Criteria.Condition
import Criteria.Json.Document

namespace Criteria

/-! ### Writing -/

def Value.toJson : Value → Json
  | .null => .null
  | .number x => .float x
  | .text s => .string s
  | .time t => .string (String.ofList (t.textWith 'T'))

namespace Condition

def operandMember (key : String) : Option Value → Members
  | none => []
  | some v => [(key, v.toJson)]

def toJson (c : Condition) : Json :=
  .object ([("identifier", .string c.identifier), ("value_type", .string c.valueType.name),
    ("operator", .string c.operator.name)] ++ operandMember "operand" c.operand ++
    operandMember "secondary_operand" c.secondary)

/-! ### Reading -/

open Json (Doc)

def readOperand : Doc → Option (Option Value)
  | .null => some none
  | .number n =>
    match n.value? with
    | some (.int i) => some (some (.number (.ofInt i)))
    | some (.float x) => some (some (.number x))
    | _ => none
  | .string s => s.map fun s => some (.text s)
  | _ => none

def readText : Doc → Option String
  | .string s => s
  | _ => none

/-- A name: a text, or an object whose one key is the name and whose value is null. -/
def readName : Doc → Option String
  | .string s => s
  | .object [(k, .null)] => k
  | _ => none

def readValueType (d : Doc) : Option ValueType := (readName d).bind ValueType.ofExactName?

def readOperator (d : Doc) : Option Operator := (readName d).bind Operator.ofExactName?

/-- The one document under a key, if there is exactly one. -/
inductive Found where
  | absent
  | once (d : Doc)
  | repeated

def find (key : String) (ms : List (Option String × Doc)) : Found :=
  match ms.filter (fun m => m.1 == some key) with
  | [] => .absent
  | [m] => .once m.2
  | _ => .repeated

def readOptional (d : Found) : Option (Option Value) :=
  match d with
  | .absent => some none
  | .once d => readOperand d
  | .repeated => none

def Found.required : Found → Option Doc
  | .once d => some d
  | _ => none

def ofParts? (identifier valueType operator : Doc) (operand secondary : Found) :
    Option Condition := do
  return {
    identifier := ← readText identifier
    valueType := ← readValueType valueType
    operator := ← readOperator operator
    operand := ← readOptional operand
    secondary := ← readOptional secondary }

/-- A condition from an object or from an array of three to five parts. -/
def ofDoc? : Doc → Option Condition
  | .object ms =>
    if ms.any (fun m => m.1.isNone) then none
    else do
      ofParts? (← (find "identifier" ms).required) (← (find "value_type" ms).required)
        (← (find "operator" ms).required) (find "operand" ms) (find "secondary_operand" ms)
  | .array [i, t, o] => ofParts? i t o .absent .absent
  | .array [i, t, o, a] => ofParts? i t o (.once a) .absent
  | .array [i, t, o, a, b] => ofParts? i t o (.once a) (.once b)
  | _ => none

def readJson? (cs : List Char) : Option Condition := (Doc.read? cs).bind ofDoc?

def readJsonList? (cs : List Char) : Option (List Condition) :=
  match Doc.read? cs with
  | some (.array ds) => ds.mapM ofDoc?
  | _ => none

end Condition

end Criteria
