/-
  Criteria/Sql/Rendering.lean
  ===========================
  **Conditions as clauses.**  A condition in normal form becomes a clause where
  relational stores have a primitive for it: patterns on short text only, and
  of the token tests only whole-token membership.

  `clause?` mirrors `render_sql`.
-/
import Criteria.Condition
import Criteria.Sql.Clause

namespace Criteria.Sql

/-- A character inside a pattern: what a pattern would read as its own is escaped. -/
def escapePattern (c : Char) : List Char :=
  if c = '\\' ∨ c = '%' ∨ c = '_' then ['\\', c] else [c]

/-- The pattern of the texts that stand in a relation to a given one. -/
def patternOf (kind : MatchKind) (raw : List Char) : List Char :=
  let body := raw.flatMap escapePattern
  match kind with
  | .exact => body
  | .leading => body ++ ['%']
  | .trailing => '%' :: body
  | .within => '%' :: (body ++ ['%'])

def comparisonOf : Operator → Comparison
  | .not => .ne
  | .greaterThan => .gt
  | .greaterThanEq => .ge
  | .lessThan => .lt
  | .lessThanEq => .le
  | _ => .eq

/-- The tests of a null check; an empty text counts as null. -/
def nullClause (column : String) (negated foldsEmpty : Bool) : Clause :=
  let empty := if foldsEmpty then [.compare (if negated then .ne else .eq) []] else []
  ⟨column, .or, .null negated :: empty⟩

def tokenClause? (column : String) (negated : Bool) (tokens : List String) : Option Clause :=
  if tokens.isEmpty then none
  else some ⟨column, if negated then .and else .or, tokens.map fun t => .member negated t.toList⟩

def clauseOf? (c : Condition) : Option Clause :=
  let negated := c.operator.isNegated
  let single (a : Atom) : Clause := ⟨c.identifier, .or, [a]⟩
  match c.operator.family with
  | .nullCheck => some (nullClause c.identifier negated c.valueType.foldsEmpty)
  | .relativeDay days => some (single (.onDay days.toInt))
  | .equality | .ordering =>
    c.operand.map fun v => single (.compare (comparisonOf c.operator) v.literal.toList)
  | .substring kind =>
    if c.valueType = .text then
      c.operand.map fun v =>
        let raw := v.literal.toList
        single (.like negated (patternOf kind raw) (raw.flatMap escapePattern != raw))
    else none
  | .anyToken .exact => tokenClause? c.identifier negated c.tokens
  | .anyToken _ => none

/-- The clause of a condition: none if the operator is not defined for the value type, if there is
    no normal form, or if there is no primitive. -/
def clause? (c : Condition) : Option Clause :=
  if c.isSupported then
    match c.normalized with
    | .ok n => clauseOf? n
    | .error _ => none
  else none

end Criteria.Sql
