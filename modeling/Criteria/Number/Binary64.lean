/-
  Criteria/Number/Binary64.lean
  =============================
  **Double-precision numbers.**  A number is not-a-number, an infinity, or a
  sign with a *rank*: the place of its magnitude among the finite non-negative
  doubles, counted from zero.  Ranks 0 to `2^52 - 1` are the subnormal
  magnitudes, and each further block of `2^52` ranks is one binade, so the order
  of magnitudes is the order of ranks and every comparison is one of integers.

  Rounding takes a ratio of naturals to the nearest rank, a half going to the
  even neighbour, and reads past the last rank as an infinity.
-/
import Criteria.Number.Powers

namespace Criteria

def Binary64.magnitudes : Nat := 2047 * twoTo 52

inductive Binary64 where
  | nan
  | infinite (negative : Bool)
  | finite (negative : Bool) (rank : Fin Binary64.magnitudes)
  deriving DecidableEq, Repr

namespace Binary64

/-! ### Parts of a magnitude -/

/-- The whole number `m` of a magnitude `m * 2 ^ q`. -/
def significand (rank : Nat) : Nat :=
  if rank < twoTo 52 then rank else twoTo 52 + rank % twoTo 52

/-- The power `q` of a magnitude `m * 2 ^ q`. -/
def exponent (rank : Nat) : Int :=
  if rank < twoTo 52 then -1074 else (rank / twoTo 52 : Nat) - 1075

def isFinite : Binary64 → Bool
  | finite _ _ => true
  | _ => false

/-! ### Order -/

/-- The place of a number on the line; the two zeros share one, and not-a-number has none. -/
def place : Binary64 → Option Int
  | nan => none
  | infinite negative => some (if negative then -magnitudes else magnitudes)
  | finite negative rank => some (if negative then -(rank.val : Int) else rank.val)

def compare? (x y : Binary64) : Option Ordering :=
  match x.place, y.place with
  | some a, some b => some (compare a b)
  | _, _ => none

/-- Numbers are the same when they have the same place: zero is minus zero, and
    not-a-number is nothing, not even itself. -/
def same (x y : Binary64) : Bool := x.compare? y == some .eq

/-! ### Rounding -/

/-- The whole number nearest to a ratio, a half going to the even neighbour. -/
def roundHalfEven (num den : Nat) : Nat :=
  let q := num / den
  let r := num % den
  if 2 * r < den then q
  else if den < 2 * r then q + 1
  else q + q % 2

/-- The power of two just at or below a positive ratio. -/
def floorLog2 (num den : Nat) : Int :=
  let k := (num.log2 : Int) - den.log2
  if den * twoTo k.toNat ≤ num * twoTo (-k).toNat then k else k - 1

/-- The rank nearest to a ratio, on the line of ranks continued without end. -/
def nearestRank (num den : Nat) : Nat :=
  if num = 0 then 0
  else
    let q := max (-1074) (floorLog2 num den - 52)
    (q + 1074).toNat * twoTo 52 + roundHalfEven (num * twoTo (-q).toNat) (den * twoTo q.toNat)

/-- The number of a rank; one past the last magnitude is an infinity. -/
def ofRank (negative : Bool) (rank : Nat) : Binary64 :=
  if h : rank < magnitudes then finite negative ⟨rank, h⟩ else infinite negative

def ofRatio (negative : Bool) (num den : Nat) : Binary64 :=
  ofRank negative (nearestRank num den)

def ofInt (i : Int) : Binary64 := ofRatio (i < 0) i.natAbs 1

/-- The number nearest to `n * 10 ^ e`.  Magnitudes that a glance at the digits puts beyond
    either end of the line are not multiplied out. -/
def ofDecimal (negative : Bool) (n : Nat) (e : Int) : Binary64 :=
  let top := (Nat.toDigits 10 n).length + e
  if n = 0 ∨ top < -400 then ofRank negative 0
  else if 400 < top then infinite negative
  else ofRatio negative (n * tenTo e.toNat) (tenTo (-e).toNat)

end Binary64

end Criteria
