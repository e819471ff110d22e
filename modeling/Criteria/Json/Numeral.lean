/-
  Criteria/Json/Numeral.lean
  ==========================
  **Numbers of a JSON text.**  A numeral is a number as it is written: a sign,
  whole digits, perhaps a fraction, perhaps a power of ten.

  Whole numbers that fit into 64 bits stay whole.  Of any other number the
  leading digits that fit into 64 bits are taken as a whole number, which is
  then scaled by the power of ten that is due; digits after those count for no
  more than their places.  A number that overflows has no value.
-/
import Criteria.Json
import Criteria.Number.Scaling
import Criteria.Text.Digits

namespace Criteria.Json

open Text

structure Numeral where
  negative : Bool
  whole : List Char
  fraction : Option (List Char)
  power : Option Int
  deriving DecidableEq, Repr

/-! ### Reading -/

/-- A power of ten after the digits of a number: nothing, or `e` and a whole number. -/
def readPower : List Char → Option (Option Int)
  | [] => some none
  | c :: cs => if c = 'e' ∨ c = 'E' then (readInt cs).map some else none

/-- What follows the whole digits of a number: a point with digits, if any, and a power. -/
def readTail (negative : Bool) (whole : List Char) : List Char → Option Numeral
  | '.' :: cs =>
    let ds := cs.takeWhile isDigit
    if ds.isEmpty then none
    else (readPower (cs.dropWhile isDigit)).map fun p => ⟨negative, whole, some ds, p⟩
  | cs => (readPower cs).map fun p => ⟨negative, whole, none, p⟩

/-- A number without its sign; its first digit is a zero only if that is its only whole digit. -/
def readMagnitude (negative : Bool) (cs : List Char) : Option Numeral :=
  match cs.takeWhile isDigit with
  | [] => none
  | '0' :: _ :: _ => none
  | ds => readTail negative ds (cs.dropWhile isDigit)

def readNumeral : List Char → Option Numeral
  | '-' :: cs => readMagnitude true cs
  | cs => readMagnitude false cs

/-! ### Values -/

/-- The number that digits make after another one, as long as it fits into 64 bits, and how many
    digits are left over. -/
def absorb (n : Nat) : List Char → Nat × Nat
  | [] => (n, 0)
  | d :: ds =>
    let next := 10 * n + digitValue d
    if next < twoTo 64 then absorb next ds else (n, ds.length + 1)

def finite? (x : Binary64) : Option Json := if x.isFinite then some (.float x) else none

def Numeral.scaled (n : Numeral) : Binary64 :=
  let ds := n.fraction.getD []
  let (m, leftWhole) := absorb 0 n.whole
  let (m, leftFraction) := absorb m ds
  Binary64.scaled n.negative m (n.power.getD 0 + leftWhole - (ds.length - leftFraction : Nat))

/-- The value of a number.  Whole numbers that fit into 64 bits, signed or unsigned, stay whole;
    all others are doubles, as is minus zero. -/
def Numeral.value? (n : Numeral) : Option Json :=
  let m := digitsValue n.whole
  let i : Int := if n.negative then -m else m
  if n.fraction.isNone ∧ n.power.isNone ∧ ¬(n.negative ∧ m = 0)
      ∧ (fitsSigned 64 i || fitsUnsigned 64 i) then some (.int i)
  else finite? n.scaled

end Criteria.Json
