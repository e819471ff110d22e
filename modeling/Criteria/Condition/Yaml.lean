/-
  Criteria/Condition/Yaml.lean
  ============================
  **Conditions as YAML.**  A condition is a mapping with the same keys as in
  JSON.  Texts and names are scalars in whatever form they stand; an operand is
  what its scalar means: a number, a text, or nothing.
-/
import Criteria.Condition
import Criteria.Yaml.V11.Schema

namespace Criteria.Condition

open Yaml.V11 (Document Node)

/-- The value of an operand.  A plain scalar that means nothing is no operand, unless it has a tag
    of the document's own. -/
def operandOfNode? (d : Document) (n : Node) : Option (Option Value) :=
  match d.follow n with
  | .scalar tag plain cs =>
    match Yaml.V11.scalarMeaning? tag plain cs with
    | some .null =>
      let isNone := plain && tag.all (· == Yaml.V11.schemaTag "null")
      some (if isNone then none else some .null)
    | some (.int i) => some (some (.number (.ofInt i)))
    | some (.float x) => some (some (.number x))
    | some (.text cs) => some (some (.text (String.ofList cs)))
    | _ => none
  | _ => none

/-- The name that a scalar gives: its text, or a tag of the document's own on nothing. -/
def nameOfNode? (d : Document) (n : Node) : Option String :=
  match d.follow n with
  | .scalar tag plain cs =>
    match Yaml.V11.ownName? tag with
    | none => some (String.ofList cs)
    | some name => if plain && (cs.isEmpty || Yaml.V11.isNull cs) then some name else none
  | _ => none

def optionalOfNode? (d : Document) : Option Node → Option (Option Value)
  | none => some none
  | some n => operandOfNode? d n

def ofMembers? (d : Document) (ms : List (List Char × Node)) : Option Condition := do
  let identifier ← (← Yaml.V11.member? "identifier" ms)
  let valueType ← (← Yaml.V11.member? "value_type" ms)
  let operator ← (← Yaml.V11.member? "operator" ms)
  return {
    identifier := String.ofList (← d.text? identifier)
    valueType := ← (nameOfNode? d valueType).bind ValueType.ofExactName?
    operator := ← (nameOfNode? d operator).bind Operator.ofExactName?
    operand := ← optionalOfNode? d (← Yaml.V11.member? "operand" ms)
    secondary := ← optionalOfNode? d (← Yaml.V11.member? "secondary_operand" ms) }

def ofNode? (d : Document) (n : Node) : Option Condition := (d.members? n).bind (ofMembers? d)

/-- The conditions that the sequence of a YAML text writes; a text without a document writes
    none. -/
def readYamlList? (cs : List Char) : Option (List Condition) :=
  match Document.read? cs with
  | none => none
  | some none => some []
  | some (some d) => (d.items? d.root).bind fun ns => ns.mapM (ofNode? d)

end Criteria.Condition
