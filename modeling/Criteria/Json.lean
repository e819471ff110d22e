/-
  Criteria/Json.lean
  ==================
  **JSON values and their text.**  A number is a whole number or a double; an
  object is a list of members, and `Members.set` keeps such a list in ascending
  order of its keys with one member a key.  The text of a value is compact: its
  members in the order of the list, no white space.
-/
import Criteria.Number.Layout

namespace Criteria

open Text

inductive Json where
  | null
  | bool (b : Bool)
  | int (i : Int)
  | float (x : Binary64)
  | string (s : String)
  | array (items : List Json)
  | object (members : List (String × Json))

abbrev Members := List (String × Json)

/-- A member added in its place; an earlier member of the same key gives way. -/
def Members.set (k : String) (v : Json) : Members → Members
  | [] => [(k, v)]
  | m :: ms =>
    if k = m.1 then (k, v) :: ms
    else if k < m.1 then (k, v) :: m :: ms
    else m :: Members.set k v ms

namespace Json

def keyed (k : String) (v : Json) : Json := object [(k, v)]

/-! ### Text -/

/-- A character inside a string: short escapes where there is one, a numbered escape for the other
    control characters, the character itself for the rest. -/
def escape (c : Char) : List Char :=
  if c = '"' then ['\\', '"']
  else if c = '\\' then ['\\', '\\']
  else if c = '\n' then ['\\', 'n']
  else if c = '\r' then ['\\', 'r']
  else if c = '\t' then ['\\', 't']
  else if c = '\x08' then ['\\', 'b']
  else if c = '\x0c' then ['\\', 'f']
  else if c.toNat < 0x20 then
    ['\\', 'u', '0', '0', Nat.digitChar (c.toNat / 16), Nat.digitChar (c.toNat % 16)]
  else [c]

def quoted (s : String) : List Char := '"' :: (s.toList.flatMap escape ++ ['"'])

mutual

def chars : Json → List Char
  | null => "null".toList
  | bool true => "true".toList
  | bool false => "false".toList
  | int i => intDigits i
  | float x => x.text .marked
  | string s => quoted s
  | array items => '[' :: (itemChars items ++ [']'])
  | object members => '\x7b' :: (memberChars members ++ ['\x7d'])

def itemChars : List Json → List Char
  | [] => []
  | [v] => chars v
  | v :: vs => chars v ++ ',' :: itemChars vs

def memberChars : List (String × Json) → List Char
  | [] => []
  | [(k, v)] => quoted k ++ ':' :: chars v
  | (k, v) :: ms => quoted k ++ ':' :: (chars v ++ ',' :: memberChars ms)

end

def text (v : Json) : String := String.ofList v.chars

end Json

end Criteria
