/-
  Criteria/Yaml/Place.lean
  ========================
  **Places in a YAML text.**  A place is what is left of the text together with
  its line and column and with the characters and octets before it.
-/
import Criteria.Text.Octets

namespace Criteria.Yaml

/-! ### Characters -/

def isSpaceOrTab (c : Char) : Bool := c = ' ' || c = '\t'

def isNameChar (c : Char) : Bool := c.isAlphanum || c = '-' || c = '_'

def isFlowMark (c : Char) : Bool := c = ',' || c = '[' || c = ']' || c = '\x7b' || c = '\x7d'

/-! ### Places -/

/-- What is left of a text, and where it begins. -/
structure Place where
  rest : List Char
  line : Nat := 0
  column : Nat := 0
  index : Nat := 0
  octets : Nat := 0
  deriving Repr

namespace Place

def skip (p : Place) (n : Nat) : Place :=
  { p with
    rest := p.rest.drop n
    column := p.column + n
    index := p.index + n
    octets := p.octets + Text.width (p.rest.take n) }

def nextLine (p : Place) (n : Nat) : Place := { p.skip n with line := p.line + 1, column := 0 }

def takeWhile (p : Place) (test : Char → Bool) : List Char × Place :=
  let cs := p.rest.takeWhile test
  (cs, p.skip cs.length)

def skipWhile (p : Place) (test : Char → Bool) : Place := (p.takeWhile test).2

def at_ (p : Place) (cs : List Char) : Bool := cs.isPrefixOf p.rest

def atThree (p : Place) : Bool := p.at_ "---".toList || p.at_ "...".toList

end Place

end Criteria.Yaml
