/-
  Criteria/Number/Reading.lean
  ============================
  **Numbers in text.**  A decimal text is an optional sign, digits with an
  optional point among or beside them, and an optional power of ten; the names
  `inf`, `infinity` and `nan` are numbers in any case.  The number read is the
  double nearest to what is written.
-/
import Criteria.Number.Binary64
import Criteria.Text.Blank
import Criteria.Text.Digits

namespace Criteria.Binary64

open Criteria.Text

/-- What follows the digits of a decimal: nothing, or `e`, an optional sign and digits. -/
def readPower : List Char → Option Int
  | [] => some 0
  | c :: cs => if c = 'e' ∨ c = 'E' then readInt cs else none

def takeFraction : List Char → List Char × List Char
  | '.' :: cs => (cs.takeWhile isDigit, cs.dropWhile isDigit)
  | cs => ([], cs)

/-- An unsigned decimal with at least one digit before or after its point. -/
def readDecimal (negative : Bool) (cs : List Char) : Option Binary64 :=
  let whole := cs.takeWhile isDigit
  let (fraction, rest) := takeFraction (cs.dropWhile isDigit)
  let ds := whole ++ fraction
  if ds.isEmpty then none
  else (readPower rest).map fun e => ofDecimal negative (digitsValue ds) (e - fraction.length)

def readUnsigned (negative : Bool) (cs : List Char) : Option Binary64 :=
  if sameName cs "inf".toList || sameName cs "infinity".toList then some (infinite negative)
  else if sameName cs "nan".toList then some nan
  else readDecimal negative cs

def read? : List Char → Option Binary64
  | '+' :: cs => readUnsigned false cs
  | '-' :: cs => readUnsigned true cs
  | cs => readUnsigned false cs

end Criteria.Binary64
