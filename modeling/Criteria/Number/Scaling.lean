/-
  Criteria/Number/Scaling.lean
  ============================
  **Scaled whole numbers.**  The double that is reached from a whole number by
  steps of double-precision arithmetic: the whole number is rounded, then
  multiplied or divided by a rounded power of ten, and the result is rounded
  once more.  It is near to `n * 10 ^ e` but not always the nearest double.

  Magnitudes are their ranks, on the line of ranks continued without end, so an
  overflow is a rank past the last finite one.
-/
import Criteria.Number.Binary64

namespace Criteria.Binary64

/-! ### Products and quotients -/

def timesRank (a b : Nat) : Nat :=
  let q := exponent a + exponent b
  nearestRank (significand a * significand b * twoTo q.toNat) (twoTo (-q).toNat)

def overRank (a b : Nat) : Nat :=
  let q := exponent a - exponent b
  nearestRank (significand a * twoTo q.toNat) (significand b * twoTo (-q).toNat)

def tenRank (e : Nat) : Nat := nearestRank (tenTo e) 1

/-! ### Scaling -/

/-- The greatest power of ten that is a finite double. -/
def greatestTen : Nat := 308

/-- A magnitude divided several times by the greatest power of ten. -/
def shrunkRank (rank : Nat) : (times : Nat) → Nat
  | 0 => rank
  | t + 1 => shrunkRank (overRank rank (tenRank greatestTen)) t

/-- The rank of a whole number times a power of ten.  A power beyond the greatest one makes every
    magnitude but zero overflow; division by such a power is done in parts, and three parts of the
    greatest power leave nothing of a number of 64 bits. -/
def scaledRank (n : Nat) (e : Int) : Nat :=
  let start := nearestRank n 1
  if n = 0 then 0
  else if greatestTen < e then magnitudes
  else if 0 ≤ e then timesRank start (tenRank e.toNat)
  else
    let parts := ((-e).toNat - 1) / greatestTen
    overRank (shrunkRank start (min parts 3)) (tenRank ((-e).toNat - parts * greatestTen))

def scaled (negative : Bool) (n : Nat) (e : Int) : Binary64 := ofRank negative (scaledRank n e)

end Criteria.Binary64
