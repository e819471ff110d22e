/-
  Criteria/Text/Blank.lean
  ========================
  **White space and letter case.**  Texts are worked on as lists of characters.
  White space is the Unicode property `White_Space`; the case of a letter is
  folded for ASCII only, which is what names of operators, value types and
  stores are written in.
-/
namespace Criteria.Text

/-! ### White space -/

/-- The code points with the property `White_Space`, as closed ranges in ascending order. -/
def blankRanges : List (Nat × Nat) :=
  [(0x09, 0x0D), (0x20, 0x20), (0x85, 0x85), (0xA0, 0xA0), (0x1680, 0x1680),
   (0x2000, 0x200A), (0x2028, 0x2029), (0x202F, 0x202F), (0x205F, 0x205F), (0x3000, 0x3000)]

def isBlank (c : Char) : Bool :=
  blankRanges.any fun r => r.1 ≤ c.toNat && c.toNat ≤ r.2

def dropBlanks (cs : List Char) : List Char := cs.dropWhile isBlank

def dropBlanksEnd (cs : List Char) : List Char := (cs.reverse.dropWhile isBlank).reverse

def trim (cs : List Char) : List Char := dropBlanksEnd (dropBlanks cs)

/-! ### Marks -/

def dropMark : List Char → List Char
  | '\uFEFF' :: cs => cs
  | cs => cs

/-! ### Case -/

/-- Two texts are the same name when they agree up to the case of ASCII letters. -/
def sameName (a b : List Char) : Bool := a.map Char.toLower == b.map Char.toLower

/-! ### Pieces -/

/-- `occursIn p cs` says whether `p` is a contiguous part of `cs`. -/
def occursIn (p : List Char) : List Char → Bool
  | [] => p.isEmpty
  | c :: cs => p.isPrefixOf (c :: cs) || occursIn p cs

/-- The text between the first occurrence of a separator and its surroundings: what stands
    before it and what stands after it, or nothing when the separator is absent. -/
def cutAt (sep : Char) : List Char → Option (List Char × List Char)
  | [] => none
  | c :: cs =>
    if c = sep then some ([], cs)
    else (cutAt sep cs).map fun r => (c :: r.1, r.2)

end Criteria.Text
