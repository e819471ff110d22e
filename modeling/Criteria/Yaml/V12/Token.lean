/-
  Criteria/Yaml/V12/Token.lean
  ============================
  **Tokens of a stream of YAML 1.2.**  Lines end with a line feed, a carriage
  return, or both; no other character ends a line.
-/
import Criteria.Yaml.V12.Tag

namespace Criteria.Yaml.V12

inductive Token where
  | version
  /-- What a handle stands for. -/
  | handle (name start : List Char)
  | documentStart
  | documentEnd
  | blockSequenceStart
  | blockMappingStart
  | blockEnd
  | flowSequenceStart
  | flowSequenceEnd
  | flowMappingStart
  | flowMappingEnd
  | blockEntry
  | flowEntry
  | key
  | value
  | alias (name : List Char)
  | anchor (name : List Char)
  | tag (t : Tag)
  /-- A scalar, and whether it stands without quotes and on no block indicator. -/
  | scalar (plain : Bool) (cs : List Char)
  deriving DecidableEq, Repr

/-! ### Characters -/

def isBreak (c : Char) : Bool := c = '\n' || c = '\r'

def atBreak : List Char → Bool
  | [] => true
  | c :: _ => isBreak c

def atBlank : List Char → Bool
  | [] => true
  | c :: _ => isBreak c || isSpaceOrTab c

def isAnchorChar (c : Char) : Bool :=
  !isBreak c && !isSpaceOrTab c && !isFlowMark c && c != '\ufeff'

/-! ### Places -/

def afterBreak (p : Place) : Place :=
  match p.rest with
  | '\r' :: '\n' :: _ => p.nextLine 2
  | c :: _ => if isBreak c then p.nextLine 1 else p
  | [] => p

def atMark (p : Place) (c : Char) : Bool := p.at_ [c] && atBlank (p.rest.drop 1)

def atDocumentMark (p : Place) : Bool := p.column = 0 && p.atThree && atBlank (p.rest.drop 3)

/-- What stands between a token and the end of its line, or the next token on the line. -/
structure Trail where
  /-- The place after it. -/
  place : Place
  /-- Some of the blanks are tabs. -/
  tabs : Bool
  /-- Some of the blanks are spaces. -/
  spaces : Bool

/-- The blanks and the comment at a place.  A comment has blanks before it. -/
def takeTrail? (p : Place) : Option Trail :=
  let (blanks, q) := p.takeWhile isSpaceOrTab
  let tabs := blanks.contains '\t'
  let spaces := blanks.contains ' '
  if q.at_ ['#'] then
    if blanks.isEmpty then none else some ⟨q.skipWhile fun c => !isBreak c, tabs, spaces⟩
  else some ⟨q, tabs, spaces⟩

end Criteria.Yaml.V12
