/-
  Criteria/Condition/Operator.lean
  ================================
  **Operators.**  The comparisons that a condition can make, what each takes as
  operand, and which value types each is defined for.  The catalogue at the end
  is the one place that says so; evaluation and rendering ask it first.

  `Operator.valueTypes` mirrors `value_types_for`, `MatchKind.holds` mirrors `matches`.
-/
import Criteria.Value.Kind

namespace Criteria

open Text

inductive Operator where
  | isNull
  | isNotNull
  | today
  | yesterday
  | tomorrow
  | is
  | not
  | greaterThan
  | greaterThanEq
  | lessThan
  | lessThanEq
  | prefixContains
  | prefixNotContains
  | suffixContains
  | suffixNotContains
  | contains
  | notContains
  | isAny
  | notAny
  | containsAny
  | notContainsAny
  | prefixContainsAny
  | prefixNotContainsAny
  | suffixContainsAny
  | suffixNotContainsAny
  deriving DecidableEq, Repr

inductive Arity where
  /-- No operand. -/
  | nullary
  /-- One operand. -/
  | unary
  /-- One operand that holds tokens. -/
  | multiValue
  deriving DecidableEq, Repr

/-! ### Relations of texts -/

inductive MatchKind where
  | exact
  | leading
  | trailing
  | within
  deriving DecidableEq, Repr

namespace MatchKind

def relates (candidate pattern : List Char) : MatchKind → Bool
  | exact => candidate == pattern
  | leading => pattern.isPrefixOf candidate
  | trailing => pattern.isSuffixOf candidate
  | within => occursIn pattern candidate

/-- Whether a text stands in this relation to a pattern; letters differ by case. -/
def holds (kind : MatchKind) (candidate pattern : String) : Bool :=
  kind.relates candidate.toList pattern.toList

end MatchKind

namespace Operator

def all : List Operator :=
  [isNull, isNotNull, today, yesterday, tomorrow, is, not, greaterThan, greaterThanEq, lessThan,
   lessThanEq, prefixContains, prefixNotContains, suffixContains, suffixNotContains, contains,
   notContains, isAny, notAny, containsAny, notContainsAny, prefixContainsAny,
   prefixNotContainsAny, suffixContainsAny, suffixNotContainsAny]

def name : Operator → String
  | isNull => "IS_NULL"
  | isNotNull => "IS_NOT_NULL"
  | today => "TODAY"
  | yesterday => "YESTERDAY"
  | tomorrow => "TOMORROW"
  | is => "IS"
  | not => "NOT"
  | greaterThan => "GREATER_THAN"
  | greaterThanEq => "GREATER_THAN_EQ"
  | lessThan => "LESS_THAN"
  | lessThanEq => "LESS_THAN_EQ"
  | prefixContains => "PREFIX_CONTAINS"
  | prefixNotContains => "PREFIX_NOT_CONTAINS"
  | suffixContains => "SUFFIX_CONTAINS"
  | suffixNotContains => "SUFFIX_NOT_CONTAINS"
  | contains => "CONTAINS"
  | notContains => "NOT_CONTAINS"
  | isAny => "IS_ANY"
  | notAny => "NOT_ANY"
  | containsAny => "CONTAINS_ANY"
  | notContainsAny => "NOT_CONTAINS_ANY"
  | prefixContainsAny => "PREFIX_CONTAINS_ANY"
  | prefixNotContainsAny => "PREFIX_NOT_CONTAINS_ANY"
  | suffixContainsAny => "SUFFIX_CONTAINS_ANY"
  | suffixNotContainsAny => "SUFFIX_NOT_CONTAINS_ANY"

def ofExactName? (s : String) : Option Operator := all.find? fun o => o.name == s

/-- The operator of this name, in any ASCII case and with white space around it. -/
def ofName? (s : String) : Option Operator :=
  all.find? fun o => sameName o.name.toList (trim s.toList)

/-! ### Families -/

/-- What an operator does, up to its sign: the families are disjoint. -/
inductive Family where
  /-- Is the field absent? -/
  | nullCheck
  /-- Is the field the operand? -/
  | equality
  /-- Is the field on a day counted from today? -/
  | relativeDay (days : Int64)
  /-- Does the field come before or after the operand, the operand itself allowed or not? -/
  | ordering
  /-- Does the field stand in this relation to the operand? -/
  | substring (kind : MatchKind)
  /-- Does a token of the field stand in this relation to a token of the operand? -/
  | anyToken (kind : MatchKind)
  deriving DecidableEq, Repr

def family : Operator → Family
  | isNull | isNotNull => .nullCheck
  | is | not => .equality
  | today => .relativeDay 0
  | yesterday => .relativeDay (-1)
  | tomorrow => .relativeDay 1
  | greaterThan | greaterThanEq | lessThan | lessThanEq => .ordering
  | prefixContains | prefixNotContains => .substring .leading
  | suffixContains | suffixNotContains => .substring .trailing
  | contains | notContains => .substring .within
  | isAny | notAny => .anyToken .exact
  | prefixContainsAny | prefixNotContainsAny => .anyToken .leading
  | suffixContainsAny | suffixNotContainsAny => .anyToken .trailing
  | containsAny | notContainsAny => .anyToken .within

/-- The operators that deny what a positive operator asserts. -/
def isNegated : Operator → Bool
  | isNotNull | not | prefixNotContains | suffixNotContains | notContains | notAny
  | notContainsAny | prefixNotContainsAny | suffixNotContainsAny => true
  | _ => false

def isNullCheck (o : Operator) : Bool := o.family == .nullCheck

def isOrdering (o : Operator) : Bool := o.family == .ordering

/-- The days from today that a relative-date operator names. -/
def dayOffset? (o : Operator) : Option Int64 :=
  match o.family with
  | .relativeDay d => some d
  | _ => none

def isRelativeDate (o : Operator) : Bool := o.dayOffset?.isSome

def isSubstring (o : Operator) : Bool :=
  match o.family with
  | .substring _ => true
  | _ => false

def isMultiValue (o : Operator) : Bool :=
  match o.family with
  | .anyToken _ => true
  | _ => false

def matchKind? (o : Operator) : Option MatchKind :=
  match o.family with
  | .substring k | .anyToken k => some k
  | _ => none

def arity (o : Operator) : Arity :=
  match o.family with
  | .nullCheck | .relativeDay _ => .nullary
  | .anyToken _ => .multiValue
  | _ => .unary

/-- Whether an ordering operator accepts a field that compares so with the operand. -/
def accepts : Operator → Ordering → Bool
  | greaterThan, r => r == .gt
  | greaterThanEq, r => r != .lt
  | lessThan, r => r == .lt
  | lessThanEq, r => r != .gt
  | _, _ => false

/-! ### Catalogue -/

def valueTypes (o : Operator) : List ValueType :=
  match o.family with
  | .nullCheck | .equality => ValueType.all
  | .ordering => [.numeric, .time]
  | .substring _ => [.text, .longText]
  | .relativeDay _ => [.time]
  | .anyToken _ => [.commaSplit]

def supports (o : Operator) (t : ValueType) : Bool := o.valueTypes.contains t

end Operator

def ValueType.operators (t : ValueType) : List Operator :=
  Operator.all.filter fun o => o.supports t

end Criteria
