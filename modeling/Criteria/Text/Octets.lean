/-
  Criteria/Text/Octets.lean
  =========================
  **Octets of texts.**  How many octets characters take in UTF-8, texts cut where
  a number of octets end, and octets that are written as a percent sign and two
  hexadecimal digits.
-/
import Criteria.Text.Bases

namespace Criteria.Text

/-! ### Widths -/

/-- How many octets characters take. -/
def width (cs : List Char) : Nat := cs.foldl (fun n c => n + c.utf8Size) 0

/-- The characters that take a number of octets, and what follows; none, if the cut would go
    through a character or there are too few. -/
def cut? : (octets : Nat) → List Char → Option (List Char × List Char)
  | 0, cs => some ([], cs)
  | _ + 1, [] => none
  | n + 1, c :: cs =>
    if n + 1 < c.utf8Size then none
    else (cut? (n + 1 - c.utf8Size) cs).map fun (a, b) => (c :: a, b)

def between? (first last : Nat) (cs : List Char) : Option (List Char) :=
  (cut? last cs).bind fun (a, _) => (cut? first a).map fun (_, b) => b

/-! ### Octets after percent signs -/

/-- The octet that a percent sign and two hexadecimal digits write, and what follows. -/
def takeOctet? : List Char → Option (Nat × List Char)
  | '%' :: a :: b :: cs => do
    let high ← hexValue? a
    let low ← hexValue? b
    return (16 * high + low, cs)
  | _ => none

def following? (octet : Nat) : Option Nat :=
  if octet < 0x80 then some 0
  else if octet < 0xC0 then none
  else if octet < 0xE0 then some 1
  else if octet < 0xF0 then some 2
  else if octet < 0xF8 then some 3
  else none

/-- A number of octets that go on with a character, and what follows. -/
def takeFollowing? : (number : Nat) → List Char → Option (List Nat × List Char)
  | 0, cs => some ([], cs)
  | n + 1, cs => do
    let (octet, cs) ← takeOctet? cs
    if octet < 0x80 ∨ 0xC0 ≤ octet then none
    else
      let (os, cs) ← takeFollowing? n cs
      return (octet :: os, cs)

def takeEscaped? (cs : List Char) : Option (List Nat × List Char) := do
  let (octet, cs) ← takeOctet? cs
  let (os, cs) ← takeFollowing? (← following? octet) cs
  return (octet :: os, cs)

end Criteria.Text
