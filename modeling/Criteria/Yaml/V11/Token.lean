/-
  Criteria/Yaml/V11/Token.lean
  ============================
  **Tokens of a stream of YAML 1.1.**  Line ends of every system are one line
  feed; the two Unicode separators end a line too but stay what they are.
-/
import Criteria.Yaml.V11.Tag

namespace Criteria.Yaml.V11

inductive Token where
  | version (major minor : Nat)
  /-- What a handle stands for. -/
  | handle (name : List Char) (start : Tag)
  | documentStart
  | documentEnd
  | blockSequenceStart
  | blockMappingStart
  | blockEnd
  | flowSequenceStart
  | flowSequenceEnd
  | flowMappingStart
  | flowMappingEnd
  | blockEntry
  | flowEntry
  | key
  | value
  | alias (name : List Char)
  | anchor (name : List Char)
  | tag (handle : List Char) (suffix : Tag)
  /-- A scalar, and whether it stands without quotes and on no block indicator. -/
  | scalar (plain : Bool) (cs : List Char)
  deriving DecidableEq, Repr

/-! ### Characters -/

def isBreak (c : Char) : Bool :=
  c = '\n' || c = '\r' || c = '\u0085' || c = '\u2028' || c = '\u2029'

def atBreak : List Char → Bool
  | [] => true
  | c :: _ => isBreak c

def atBlank : List Char → Bool
  | [] => true
  | c :: _ => isBreak c || isSpaceOrTab c

def isAllowed (c : Char) : Bool :=
  let n := c.toNat
  n = 0x09 || n = 0x0A || n = 0x0D || (0x20 ≤ n && n ≤ 0x7E) || n = 0x85 ||
    (0xA0 ≤ n && n ≤ 0xFFFD) || 0x10000 ≤ n

/-! ### Places -/

/-- The line break at a place, as it is kept, and the place after it. -/
def takeBreak (p : Place) : List Char × Place :=
  match p.rest with
  | '\r' :: '\n' :: _ => (['\n'], p.nextLine 2)
  | c :: _ =>
    if c = '\u2028' ∨ c = '\u2029' then ([c], p.nextLine 1)
    else if isBreak c then (['\n'], p.nextLine 1)
    else ([], p)
  | [] => ([], p)

def atMark (p : Place) (c : Char) : Bool := p.at_ [c] && atBlank (p.rest.drop 1)

def atDocumentMark (p : Place) : Bool := p.column = 0 && p.atThree && atBlank (p.rest.drop 3)

end Criteria.Yaml.V11
