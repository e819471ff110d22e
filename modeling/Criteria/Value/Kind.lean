/-
  Criteria/Value/Kind.lean
  ========================
  **Value types.**  A value type says how operands and fields of a condition are
  read: as text, as a number, as a date-time, or as text that holds a
  comma-separated set of tokens.
-/
import Criteria.Text.Blank

namespace Criteria

open Text

/-- How the values of a condition are read. -/
inductive ValueType where
  /-- Short text. -/
  | text
  /-- Long text, which relational stores do not index for pattern matching. -/
  | longText
  | numeric
  /-- A wall-clock date-time. -/
  | time
  /-- Text that holds comma-separated tokens. -/
  | commaSplit
  deriving DecidableEq, Repr

namespace ValueType

def all : List ValueType := [text, longText, numeric, time, commaSplit]

def name : ValueType → String
  | text => "TEXT"
  | longText => "LONG_TEXT"
  | numeric => "NUMERIC"
  | time => "TIME"
  | commaSplit => "COMMA_SPLIT"

def isTextual : ValueType → Bool
  | text | longText | commaSplit => true
  | numeric | time => false

/-- The text types, whose empty text counts as an absent value. -/
def foldsEmpty : ValueType → Bool
  | text | longText => true
  | _ => false

def ofExactName? (s : String) : Option ValueType := all.find? fun t => t.name == s

def ofName? (s : String) : Option ValueType :=
  all.find? fun t => sameName t.name.toList (trim s.toList)

end ValueType

end Criteria
