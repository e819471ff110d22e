/-
  Criteria/Search/Rendering.lean
  ==============================
  **Conditions as queries.**  A condition in normal form becomes a query; a
  token test needs a token.  A negated operator wraps the leaves of its
  positive form.

  `query?` mirrors `render_query`, `escapeWildcard` mirrors `escape_wildcard`.
-/
import Criteria.Condition
import Criteria.Search.Query

namespace Criteria.Search

/-- A character inside a wildcard pattern: what a pattern would read as its own is escaped. -/
def escapeWildcard (c : Char) : List Char :=
  if c = '*' ∨ c = '?' ∨ c = '\\' then ['\\', c] else [c]

def leafOf (field : String) (kind : MatchKind) (raw : String) : Query :=
  let body := raw.toList.flatMap escapeWildcard
  match kind with
  | .exact => .term field (.text raw)
  | .leading => .leading field raw
  | .trailing => .wildcard field ('*' :: body)
  | .within => .wildcard field ('*' :: (body ++ ['*']))

def signedLeaf (negated : Bool) (q : Query) : Query := if negated then .noneOf [q] else q

def boundOf : Operator → Bound
  | .greaterThan => .gt
  | .greaterThanEq => .gte
  | .lessThan => .lt
  | _ => .lte

/-- The query of a null check; an empty text counts as null. -/
def nullQuery (field : String) (negated foldsEmpty : Bool) : Query :=
  if negated then .present field
  else if foldsEmpty then .anyOf [.noneOf [.present field], .term field (.text "")]
  else .noneOf [.present field]

def tokenQuery? (field : String) (kind : MatchKind) (negated : Bool) (tokens : List String) :
    Option Query :=
  let leaves := tokens.map (leafOf field kind)
  if leaves.isEmpty then none
  else some (if negated then .noneOf leaves else .anyOf leaves)

def queryOf? (zone : Offset) (c : Condition) : Option Query :=
  let negated := c.operator.isNegated
  match c.operator.family with
  | .nullCheck => some (nullQuery c.identifier negated c.valueType.foldsEmpty)
  | .relativeDay days => some (.onDay c.identifier days.toInt zone)
  | .equality => c.operand.map fun v => signedLeaf negated (.term c.identifier v)
  | .ordering => c.operand.map fun v => .range c.identifier (boundOf c.operator) v
  | .substring kind =>
    c.operand.map fun v => signedLeaf negated (leafOf c.identifier kind v.literal)
  | .anyToken kind => tokenQuery? c.identifier kind negated c.tokens

/-- The query of a condition: none if the operator is not defined for the value type, if there is
    no normal form, or if there is no token to look for. -/
def query? (zone : Offset) (c : Condition) : Option Query :=
  if c.isSupported then
    match c.normalized with
    | .ok n => queryOf? zone n
    | .error _ => none
  else none

end Criteria.Search
