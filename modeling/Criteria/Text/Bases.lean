/-
  Criteria/Text/Bases.lean
  ========================
  **Digits to other bases.**  Numbers to a base of at most sixteen, and the
  characters that code points written so denote.
-/
namespace Criteria.Text

def hexValue? (c : Char) : Option Nat :=
  if '0' ≤ c ∧ c ≤ '9' then some (c.toNat - '0'.toNat)
  else if 'a' ≤ c ∧ c ≤ 'f' then some (c.toNat - 'a'.toNat + 10)
  else if 'A' ≤ c ∧ c ≤ 'F' then some (c.toNat - 'A'.toNat + 10)
  else none

def isDigitOf (base : Nat) (c : Char) : Bool := (hexValue? c).any fun d => d < base

def readBase (base : Nat) (cs : List Char) : Option Nat :=
  if cs.isEmpty then none
  else cs.foldlM (fun n c => (hexValue? c).bind fun d =>
    if d < base then some (base * n + d) else none) 0

def character? (n : Nat) : Option Char :=
  if (0xD800 ≤ n ∧ n ≤ 0xDFFF) ∨ 0x10FFFF < n then none else some (Char.ofNat n)

/-- The character whose code point a given number of hexadecimal digits write, at the front of a
    text. -/
def readCodePoint (digits : Nat) (cs : List Char) : Option Char :=
  let ds := cs.take digits
  if ds.length = digits then (readBase 16 ds).bind character? else none

end Criteria.Text
