/-
  Criteria/Calendar/Date.lean
  ===========================
  **Calendar dates.**  Dates of the proleptic Gregorian calendar, from the first
  day of year -262143 to the last day of year 262142, and their day numbers
  counted from 1970-01-01.

  A day number is split back by whole 400-year, 100-year, 4-year and one-year
  periods; the last of the four centuries and the last of the four years are
  one day longer, so each quotient is capped at three.
-/
namespace Criteria

namespace Calendar

/-! ### Years and months -/

def firstYear : Int := -262143

def lastYear : Int := 262142

/-- A year divisible by four, unless by a hundred and not by four hundred. -/
def isLeap (year : Int) : Bool := year % 4 = 0 && (year % 100 ≠ 0 || year % 400 = 0)

def daysIn (year : Int) (month : Nat) : Nat :=
  if month = 2 then (if isLeap year then 29 else 28)
  else if month = 4 ∨ month = 6 ∨ month = 9 ∨ month = 11 then 30
  else 31

def daysBeforeMonth (year : Int) (month : Nat) : Nat :=
  (List.range (month - 1)).foldl (fun days i => days + daysIn year (i + 1)) 0

/-- The days from the first of January of year 1 to the first of January of a year. -/
def daysBeforeYear (year : Int) : Int :=
  365 * (year - 1) + (year - 1) / 4 - (year - 1) / 100 + (year - 1) / 400

def Valid (year : Int) (month day : Nat) : Prop :=
  (firstYear ≤ year ∧ year ≤ lastYear) ∧ (1 ≤ month ∧ month ≤ 12) ∧
    (1 ≤ day ∧ day ≤ daysIn year month)

instance (year : Int) (month day : Nat) : Decidable (Valid year month day) := by
  unfold Valid; infer_instance

end Calendar

open Calendar

structure Date where
  year : Int
  month : Nat
  day : Nat
  valid : Valid year month day
  deriving DecidableEq, Repr

namespace Date

def ofParts? (year : Int) (month day : Nat) : Option Date :=
  if h : Valid year month day then some ⟨year, month, day, h⟩ else none

def order (a b : Date) : Ordering :=
  (compare a.year b.year).then ((compare a.month b.month).then (compare a.day b.day))

/-! ### Day numbers -/

def epochDays : Int := 719162

/-- The number of days since 1970-01-01. -/
def dayNumber (d : Date) : Int :=
  daysBeforeYear d.year + daysBeforeMonth d.year d.month + (d.day - 1 : Nat) - epochDays

/-- The year of a day counted from the start of year 1, and the days of that year before it. -/
def yearOf (n : Int) : Int × Nat :=
  let cycle := n / 146097
  let r := (n % 146097).toNat
  let century := min (r / 36524) 3
  let r := r - century * 36524
  let four := r / 1461
  let r := r % 1461
  let one := min (r / 365) 3
  (400 * cycle + (100 * century + 4 * four + one : Nat) + 1, r - one * 365)

/-- The month that holds a day of the year, and the day of that month, looking through the months
    that are left. -/
def monthOf (year : Int) : (months : List Nat) → (before : Nat) → Nat × Nat
  | [], before => (12, before + 1)
  | m :: ms, before =>
    if before < daysIn year m then (m, before + 1) else monthOf year ms (before - daysIn year m)

def ofDayNumber? (n : Int) : Option Date :=
  let (year, before) := yearOf (n + epochDays)
  let (month, day) := monthOf year [1, 2, 3, 4, 5, 6, 7, 8, 9, 10, 11, 12] before
  ofParts? year month day

def plusDays? (d : Date) (count : UInt64) : Option Date := ofDayNumber? (d.dayNumber + count.toNat)

def minusDays? (d : Date) (count : UInt64) : Option Date := ofDayNumber? (d.dayNumber - count.toNat)

end Date

end Criteria
