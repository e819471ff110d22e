/-
  Criteria/Text/Digits.lean
  =========================
  **Decimal digits and whole numbers.**  Writing a number with a least number of
  places, and reading back runs of digits and signed whole numbers.
-/
namespace Criteria.Text

/-! ### Writing -/

/-- Exactly `places` digits: the number modulo that power of ten, zeros in front. -/
def fixedDigits : (places : Nat) → Nat → List Char
  | 0, _ => []
  | p + 1, n => fixedDigits p (n / 10) ++ [Nat.digitChar (n % 10)]

/-- The digits of a number, none to spare; zero is written `0`. -/
def digits (n : Nat) : List Char := Nat.toDigits 10 n

def paddedDigits (places n : Nat) : List Char :=
  List.replicate (places - (digits n).length) '0' ++ digits n

def intDigits (i : Int) : List Char :=
  if i < 0 then '-' :: digits i.natAbs else digits i.natAbs

/-- A whole number with its sign, whatever it is. -/
def signedDigits (i : Int) : List Char := (if i < 0 then '-' else '+') :: digits i.natAbs

/-! ### Reading -/

def isDigit (c : Char) : Bool := '0' ≤ c && c ≤ '9'

def digitValue (c : Char) : Nat := c.toNat - '0'.toNat

def digitsValue (ds : List Char) : Nat := ds.foldl (fun n d => 10 * n + digitValue d) 0

/-- The number that a non-empty text of digits alone writes. -/
def readNat (cs : List Char) : Option Nat :=
  if cs.isEmpty then none
  else if cs.all isDigit then some (digitsValue cs)
  else none

/-- A whole number: at most one sign, then digits alone, at least one of them. -/
def readInt : List Char → Option Int
  | '+' :: cs => (readNat cs).map Int.ofNat
  | '-' :: cs => (readNat cs).map fun n => -(Int.ofNat n)
  | cs => (readNat cs).map Int.ofNat

def readIntIn (lo hi : Int) (cs : List Char) : Option Int :=
  (readInt cs).filter fun i => lo ≤ i && i ≤ hi

def takeDigits : (most : Nat) → List Char → List Char × List Char
  | 0, cs => ([], cs)
  | _ + 1, [] => ([], [])
  | m + 1, c :: cs =>
    if isDigit c then
      let r := takeDigits m cs
      (c :: r.1, r.2)
    else ([], c :: cs)

end Criteria.Text
