/-
  Criteria/Number/Shortest.lean
  =============================
  **The fewest digits that read back.**  A finite magnitude `m * 2 ^ q` owns the
  interval of reals that round to it, its ends included when `m` is even.  On
  the grid of multiples of `10 ^ k` the two neighbours of the magnitude are
  tried, from the coarsest grid down: the first grid with a neighbour in the
  interval gives the digits, and of two neighbours the nearer one.
-/
import Criteria.Number.Binary64

namespace Criteria.Binary64

/-- Which of two equally near decimals is taken. -/
inductive Tie where
  | up
  | even
  deriving DecidableEq, Repr

structure Decimal where
  digits : Nat
  exponent : Int
  deriving DecidableEq, Repr

/-- The interval of a magnitude, in units of a quarter of its last binary place: `low`, `mid` and
    `high` times `2 ^ unit`, with the ends counted in when `closed`. -/
structure Interval where
  low : Nat
  mid : Nat
  high : Nat
  unit : Int
  closed : Bool

/-- The reals that round to a magnitude.  Below a power of two the next magnitude is only half
    as far away. -/
def interval (rank : Nat) : Interval :=
  let m := significand rank
  let q := exponent rank
  { low := if m = twoTo 52 ∧ -1074 < q then 4 * m - 1 else 4 * m - 2
    mid := 4 * m
    high := 4 * m + 2
    unit := q - 2
    closed := m % 2 = 0 }

/-- The neighbour on the grid of multiples of `10 ^ k` that lies in the interval. -/
def onGrid (tie : Tie) (i : Interval) (k : Int) : Option Nat :=
  let up := twoTo i.unit.toNat * tenTo (-k).toNat
  let den := twoTo (-i.unit).toNat * tenTo k.toNat
  let below := i.mid * up / den
  let within (c : Nat) : Bool :=
    if i.closed then i.low * up ≤ c * den && c * den ≤ i.high * up
    else i.low * up < c * den && c * den < i.high * up
  let gap := 2 * (i.mid * up % den)
  let nearer :=
    if gap < den then below
    else if den < gap then below + 1
    else match tie with
      | .up => below + 1
      | .even => below + below % 2
  if within below && within (below + 1) then some nearer
  else if within below then some below
  else if within (below + 1) then some (below + 1)
  else none

/-- The first grid with a neighbour in the interval, from `10 ^ k` down, over at most `steps`
    grids. -/
def firstGrid (tie : Tie) (i : Interval) : (steps : Nat) → (k : Int) → Option Decimal
  | 0, _ => none
  | s + 1, k =>
    match onGrid tie i k with
    | some c => some ⟨c, k⟩
    | none => firstGrid tie i s (k - 1)

/-- A power of ten above every magnitude with this binary exponent. -/
def topGrid (q : Int) : Int := (q + 53) * 30103 / 100000 + 1

/-- The shortest decimal of a magnitude; zero is the decimal `0`.  From the top grid of the
    smallest magnitudes to seventeen digits of them there are fewer than forty steps. -/
def shortest (tie : Tie) (rank : Nat) : Decimal :=
  if rank = 0 then ⟨0, 0⟩
  else (firstGrid tie (interval rank) 40 (topGrid (exponent rank))).getD ⟨0, 0⟩

end Criteria.Binary64
