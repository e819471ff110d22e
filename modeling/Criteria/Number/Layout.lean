/-
  Criteria/Number/Layout.lean
  ===========================
  **Written numbers.**  The shortest digits of a number, laid out.  Two layouts
  are in use: `plain`, which is always positional, and `marked`, which always
  shows that a number is not a whole-number token and turns to powers of ten far
  from one.
-/
import Criteria.Number.Shortest
import Criteria.Text.Digits

namespace Criteria.Binary64

open Criteria.Text

structure Layout where
  /-- The scientific exponents that are written positionally. -/
  positional : Int → Bool
  /-- What follows a whole number. -/
  wholeMark : List Char
  /-- The digits taken when two decimals are equally near. -/
  tie : Tie
  /-- Not-a-number. -/
  nan : List Char
  /-- An infinity, by its sign. -/
  infinite : Bool → List Char

/-- Digits with a point, for the decimal `ds * 10 ^ e`. -/
def positionalText (wholeMark ds : List Char) (e : Int) : List Char :=
  if 0 ≤ e then ds ++ List.replicate e.toNat '0' ++ wholeMark
  else
    let places := (-e).toNat
    if places < ds.length then
      ds.take (ds.length - places) ++ '.' :: ds.drop (ds.length - places)
    else '0' :: '.' :: (List.replicate (places - ds.length) '0' ++ ds)

/-- One digit, the others behind a point, and a signed power of ten. -/
def scientificText (ds : List Char) (power : Int) : List Char :=
  let fraction := match ds.drop 1 with
    | [] => []
    | r => '.' :: r
  ds.take 1 ++ fraction ++ 'e' :: (if power < 0 then '-' else '+') :: digits power.natAbs

def magnitudeText (l : Layout) (rank : Nat) : List Char :=
  let d := shortest l.tie rank
  let ds := digits d.digits
  let power := d.exponent + ds.length - 1
  if l.positional power then positionalText l.wholeMark ds d.exponent
  else scientificText ds power

def text (l : Layout) : Binary64 → List Char
  | .nan => l.nan
  | .infinite negative => l.infinite negative
  | .finite negative rank =>
    if negative then '-' :: magnitudeText l rank else magnitudeText l rank

/-- Every number positionally, a whole number as its digits alone. -/
def Layout.plain : Layout where
  positional _ := true
  wholeMark := []
  tie := .up
  nan := "NaN".toList
  infinite negative := if negative then "-inf".toList else "inf".toList

/-- A fraction on every number, and powers of ten outside `10^-5 … 10^15`.  What is not finite has
    no such form and is written as the absent value. -/
def Layout.marked : Layout where
  positional e := -5 ≤ e && e ≤ 15
  wholeMark := ".0".toList
  tie := .even
  nan := "null".toList
  infinite _ := "null".toList

end Criteria.Binary64
