/-
  Criteria/Json/Token.lean
  ========================
  **The tokens of a JSON text.**  Characters are read one by one with the state
  of the token they belong to: between tokens, in a bare word, in a string, in
  an escape.  A string that holds half of a surrogate pair alone is a token
  like any other, but denotes no text.
-/
import Criteria.Text.Bases

namespace Criteria.Json

inductive Token where
  | arrayStart
  | arrayEnd
  | objectStart
  | objectEnd
  | comma
  | colon
  /-- A string, and the text it denotes if it denotes one. -/
  | string (s : Option String)
  /-- A run of other characters: a number or a name. -/
  | word (cs : List Char)
  deriving DecidableEq, Repr

def punctuation? (c : Char) : Option Token :=
  if c = '[' then some .arrayStart
  else if c = ']' then some .arrayEnd
  else if c = '\x7b' then some .objectStart
  else if c = '\x7d' then some .objectEnd
  else if c = ',' then some .comma
  else if c = ':' then some .colon
  else none

def isSpace (c : Char) : Bool := c = ' ' || c = '\n' || c = '\r' || c = '\t'

def escaped? (c : Char) : Option Char :=
  if c = '"' ∨ c = '\\' ∨ c = '/' then some c
  else if c = 'b' then some '\x08'
  else if c = 'f' then some '\x0c'
  else if c = 'n' then some '\n'
  else if c = 'r' then some '\r'
  else if c = 't' then some '\t'
  else none

/-! ### Units of a string -/

def isHighHalf (u : Nat) : Bool := 0xD800 ≤ u && u < 0xDC00

def isLowHalf (u : Nat) : Bool := 0xDC00 ≤ u && u < 0xE000

/-- The characters of a string's units.  The halves of a pair, one after the other, make one
    character; a half alone makes none. -/
def characters? : List Nat → Option (List Char)
  | [] => some []
  | [u] => if isHighHalf u || isLowHalf u then none else some [Char.ofNat u]
  | u :: v :: us =>
    if isHighHalf u then
      if isLowHalf v then
        (characters? us).map (Char.ofNat (0x10000 + (u - 0xD800) * 0x400 + (v - 0xDC00)) :: ·)
      else none
    else if isLowHalf u then none
    else (characters? (v :: us)).map (Char.ofNat u :: ·)

def stringOf (reversed : List Nat) : Option String :=
  (characters? reversed.reverse).map String.ofList

/-! ### Reading -/

/-- Where in a token the next character stands.  Units of a string and characters of a word are
    kept last to first. -/
inductive Place where
  | between
  | word (reversed : List Char)
  | string (reversed : List Nat)
  | escape (reversed : List Nat)
  /-- In a numbered escape, with digits still to come and the value of those read. -/
  | hex (reversed : List Nat) (left : Nat) (value : Nat)

/-- What a character that belongs to no word does: a token of its own, and the place after it. -/
def enter (c : Char) : List Token × Place :=
  match punctuation? c with
  | some t => ([t], .between)
  | none =>
    if isSpace c then ([], .between)
    else if c = '"' then ([], .string [])
    else ([], .word [c])

def endsWord (c : Char) : Bool := (punctuation? c).isSome || isSpace c || c = '"'

/-- One character: the tokens it completes and the place after it. -/
def Place.step (c : Char) : Place → Option (List Token × Place)
  | .between => some (enter c)
  | .word w =>
    if endsWord c then
      let next := enter c
      some (.word w.reverse :: next.1, next.2)
    else some ([], .word (c :: w))
  | .string us =>
    if c = '"' then some ([.string (stringOf us)], .between)
    else if c = '\\' then some ([], .escape us)
    else if c.toNat < 0x20 then none
    else some ([], .string (c.toNat :: us))
  | .escape us =>
    if c = 'u' then some ([], .hex us 4 0)
    else (escaped? c).map fun d => ([], .string (d.toNat :: us))
  | .hex us left value =>
    (Text.hexValue? c).map fun d =>
      let value := 16 * value + d
      if left = 1 then ([], .string (value :: us)) else ([], .hex us (left - 1) value)

def tokensFrom : Place → List Char → Option (List Token)
  | .between, [] => some []
  | .word w, [] => some [.word w.reverse]
  | _, [] => none
  | p, c :: cs => (p.step c).bind fun r => (tokensFrom r.2 cs).map (r.1 ++ ·)

/-- The tokens of a text, if it has no unfinished string and no bad escape. -/
def tokens (cs : List Char) : Option (List Token) := tokensFrom .between cs

end Criteria.Json
