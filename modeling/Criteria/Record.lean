/-
  Criteria/Record.lean
  ====================
  **Records.**  A record answers a field name with a value, or with nothing when
  it has no such field.  A plain record knows exact names; a JSON object knows
  exact keys first, and then paths of keys, divided by dots, through the objects
  inside it.

  `Json.toValue` mirrors `from_json`, `Record.field?` mirrors `field`.
-/
import Criteria.Json
import Criteria.Value

namespace Criteria

/-- The value of a JSON value: booleans, arrays and objects are read as their text. -/
def Json.toValue : Json → Value
  | .null => .null
  | .string s => .text s
  | .int i => .number (.ofInt i)
  | .float x => .number x
  | v => .text v.text

namespace Members

def follow (ms : Members) : List String → Option Json
  | [] => none
  | [k] => ms.lookup k
  | k :: ks =>
    match ms.lookup k with
    | some (.object inner) => follow inner ks
    | _ => none

def path (name : String) : List String := (name.toList.splitOn '.').map String.ofList

/-- The value under a key, or else at the end of a path. -/
def resolve (ms : Members) (name : String) : Option Json :=
  match ms.lookup name with
  | some v => some v
  | none => ms.follow (path name)

end Members

inductive Record where
  | plain (fields : List (String × Value))
  | json (members : Members)

def Record.field? : Record → String → Option Value
  | plain fields, name => fields.lookup name
  | json members, name => (members.resolve name).map Json.toValue

end Criteria
