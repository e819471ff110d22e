/-
  Criteria/Value.lean
  ===================
  **Values.**  What a field of a record holds and what an operand compares it
  with: nothing, a number, a text or a wall-clock date-time.

  `Value.literal` mirrors `format_literal`, `Value.same` and `Value.order?` mirror
  `equals` and `compare`.
-/
import Criteria.Number.Layout
import Criteria.Calendar.DateTime

namespace Criteria

inductive Value where
  | null
  | number (x : Binary64)
  | text (s : String)
  | time (t : DateTime)
  deriving DecidableEq, Repr

namespace Value

def isNull : Value → Bool
  | null => true
  | _ => false

def asText? : Value → Option String
  | text s => some s
  | _ => none

def asNumber? : Value → Option Binary64
  | number x => some x
  | _ => none

def asTime? : Value → Option DateTime
  | time t => some t
  | _ => none

def kindName : Value → String
  | null => "null"
  | number _ => "number"
  | text _ => "text"
  | time _ => "time"

/-- A value as text: numbers positionally, date-times in their literal form. -/
def literal : Value → String
  | null => "null"
  | number x => String.ofList (x.text .plain)
  | text s => s
  | time t => String.ofList t.text

/-- Two values are equal when both are of one kind and equal in it; numbers as numbers, so that
    the two zeros are equal and not-a-number equals nothing. -/
def same : Value → Value → Bool
  | null, null => true
  | number x, number y => x.same y
  | text s, text t => s == t
  | time s, time t => s == t
  | _, _ => false

def order? : Value → Value → Option Ordering
  | number x, number y => x.compare? y
  | time s, time t => some (s.order t)
  | _, _ => none

end Value

end Criteria
