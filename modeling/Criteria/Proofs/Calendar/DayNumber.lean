/-
  Criteria/Proofs/Calendar/DayNumber.lean
  =======================================
  **Day numbers and dates are one to one.**  A day number is split into a year and
  a day of that year, and this day into a month and a day of that month.  Both
  times the periods follow each other without a gap, and what is left over is less
  than the length of the period: so the parts found add up to the number, and no
  other parts do (`eq_of_periods`).  `ofDayNumber?` therefore finds the date with a
  given number, and every date from its number.
-/
import Criteria.Calendar.Date
import Mathlib.Order.Lattice
import Mathlib.Order.Monotone.Basic

namespace Criteria

open Calendar

namespace Calendar

/-! ### Periods -/

/-- A place in a row of periods, each beginning where the one before ends or later, lies in one
    period only, and at one distance from its beginning. -/
theorem eq_of_periods {α : Type} [LinearOrder α] (start length : α → Int)
    (hnext : ∀ a b, a < b → start a + length a ≤ start b) {a b : α} {i j : Nat}
    (hi : i < length a) (hj : j < length b) (h : start a + i = start b + j) : a = b ∧ i = j := by
  rcases lt_trichotomy a b with hlt | rfl | hlt
  · have := hnext a b hlt
    omega
  · exact ⟨rfl, by omega⟩
  · have := hnext b a hlt
    omega

/-! ### Years -/

def yearLength (year : Int) : Nat := if isLeap year then 366 else 365

theorem isLeap_iff (year : Int) :
    isLeap year = true ↔ year % 4 = 0 ∧ (year % 100 ≠ 0 ∨ year % 400 = 0) := by
  simp [isLeap]

theorem daysBeforeYear_succ (year : Int) :
    daysBeforeYear (year + 1) = daysBeforeYear year + yearLength year := by
  unfold daysBeforeYear yearLength
  have hleap := isLeap_iff year
  by_cases h : isLeap year = true
  · rw [if_pos h]
    rw [hleap] at h
    omega
  · rw [if_neg h]
    rw [hleap] at h
    omega

theorem daysBeforeYear_next {a b : Int} (h : a < b) :
    daysBeforeYear a + yearLength a ≤ daysBeforeYear b := by
  rw [← daysBeforeYear_succ]
  unfold daysBeforeYear
  omega

/-- The days before a year that is given by the whole periods before it. -/
theorem daysBeforeYear_periods (cycle : Int) {century four one : Nat} (hcentury : century ≤ 3)
    (hfour : four ≤ 24) (hone : one ≤ 3) :
    daysBeforeYear (400 * cycle + (100 * century + 4 * four + one : Nat) + 1) =
      146097 * cycle + (36524 * century + 1461 * four + 365 * one : Nat) := by
  unfold daysBeforeYear
  omega

/-- The last year of four is a leap year, unless it is the last of a century that is not the last
    of four. -/
theorem isLeap_periods (cycle : Int) {century four one : Nat} (hcentury : century ≤ 3)
    (hfour : four ≤ 24) (hone : one ≤ 3) :
    isLeap (400 * cycle + (100 * century + 4 * four + one : Nat) + 1) = true ↔
      one = 3 ∧ (four ≠ 24 ∨ century = 3) := by
  rw [isLeap_iff]
  omega

end Calendar

namespace Date

theorem yearOf_spec (n : Int) :
    daysBeforeYear (yearOf n).1 + (yearOf n).2 = n ∧ (yearOf n).2 < yearLength (yearOf n).1 := by
  have hrest : ((n % 146097).toNat : Int) = n % 146097 := by omega
  simp only [yearOf]
  generalize hr : (n % 146097).toNat = r at hrest
  have hcentury : min (r / 36524) 3 ≤ 3 := min_le_right _ _
  have hone : ∀ s, min (s / 365) 3 ≤ 3 := fun s => min_le_right _ _
  -- The capped quotient leaves less than a century, or the last of four, which is a day longer.
  have hfour : (r - min (r / 36524) 3 * 36524) / 1461 ≤ 24 := by omega
  have hdays := daysBeforeYear_periods (n / 146097) hcentury hfour
    (hone ((r - min (r / 36524) 3 * 36524) % 1461))
  have hleap := isLeap_periods (n / 146097) hcentury hfour
    (hone ((r - min (r / 36524) 3 * 36524) % 1461))
  refine ⟨?_, ?_⟩
  · rw [hdays]
    omega
  · unfold yearLength
    split_ifs with h
    · omega
    · rw [hleap] at h
      omega

end Date

/-! ### Months -/

namespace Calendar

theorem daysIn_le (year : Int) (month : Nat) : daysIn year month ≤ 31 := by
  unfold daysIn
  split_ifs <;> omega

theorem daysBeforeMonth_succ (year : Int) (month : Nat) :
    daysBeforeMonth year (month + 1 + 1) =
      daysBeforeMonth year (month + 1) + daysIn year (month + 1) := by
  simp [daysBeforeMonth, List.range_succ]

theorem daysBeforeMonth_mono (year : Int) : Monotone fun i => daysBeforeMonth year (i + 1) :=
  monotone_nat_of_le_succ fun i => by
    rw [daysBeforeMonth_succ]
    exact Nat.le_add_right _ _

theorem daysBeforeMonth_next (year : Int) {i j : Nat} (h : i < j) :
    daysBeforeMonth year (i + 1) + daysIn year (i + 1) ≤ daysBeforeMonth year (j + 1) := by
  rw [← daysBeforeMonth_succ]
  exact daysBeforeMonth_mono year h

theorem daysBeforeMonth_thirteen (year : Int) : daysBeforeMonth year 13 = yearLength year := by
  unfold daysBeforeMonth yearLength daysIn
  cases isLeap year <;> rfl

end Calendar

namespace Date

/-- The month found among consecutive months holds the day, if one of them does. -/
theorem monthOf_spec (year : Int) (count : Nat) {first before : Nat}
    (h : daysBeforeMonth year (first + 1) + before < daysBeforeMonth year (first + count + 1)) :
    ∃ i d, monthOf year (List.range' (first + 1) count) before = (i + 1, d + 1) ∧
      first ≤ i ∧ i < first + count ∧ d < daysIn year (i + 1) ∧
      daysBeforeMonth year (i + 1) + d = daysBeforeMonth year (first + 1) + before := by
  -- On the number of months left; each month passed by moves the first one on.
  induction count generalizing first before with
  | zero =>
    rw [Nat.add_zero] at h
    omega
  | succ count ih =>
    rw [List.range'_succ, monthOf]
    by_cases hin : before < daysIn year (first + 1)
    · exact ⟨first, before, if_pos hin, le_refl _, by omega, hin, rfl⟩
    · have hnext := daysBeforeMonth_succ year first
      have hmore : daysBeforeMonth year (first + 1 + 1) + (before - daysIn year (first + 1)) <
          daysBeforeMonth year (first + 1 + count + 1) := by
        rw [show first + 1 + count + 1 = first + (count + 1) + 1 by omega]
        omega
      obtain ⟨i, d, hfound, hfirst, hlast, hday, hsum⟩ := ih hmore
      exact ⟨i, d, by rw [if_neg hin, hfound], by omega, by omega, hday, by omega⟩

theorem monthOf_before {year : Int} {before : Nat} (h : before < yearLength year) :
    ∃ i d, monthOf year (List.range' 1 12) before = (i + 1, d + 1) ∧ i < 12 ∧
      d < daysIn year (i + 1) ∧ daysBeforeMonth year (i + 1) + d = before := by
  have hwithin : daysBeforeMonth year (0 + 1) + before < daysBeforeMonth year (0 + 12 + 1) := by
    rw [daysBeforeMonth_thirteen]
    simpa [daysBeforeMonth] using h
  obtain ⟨i, d, hfound, _, hlast, hday, hsum⟩ := monthOf_spec year 12 hwithin
  exact ⟨i, d, hfound, by omega, hday, by simpa [daysBeforeMonth] using hsum⟩

/-! ### Dates -/

theorem ofParts?_eq_some_iff {year : Int} {month day : Nat} {d : Date} :
    ofParts? year month day = some d ↔ d.year = year ∧ d.month = month ∧ d.day = day := by
  unfold ofParts?
  rw [Option.dite_none_right_eq_some]
  constructor
  · rintro ⟨hvalid, h⟩
    rw [← Option.some.inj h]
    exact ⟨rfl, rfl, rfl⟩
  · rintro ⟨rfl, rfl, rfl⟩
    exact ⟨d.valid, rfl⟩

/-- A date as a place in its year: the months before, and the days of the month before. -/
theorem exists_place (d : Date) :
    ∃ i k, d.month = i + 1 ∧ d.day = k + 1 ∧ k < daysIn d.year (i + 1) ∧
      daysBeforeMonth d.year (i + 1) + k < yearLength d.year := by
  obtain ⟨_, ⟨hmonth, hmonth'⟩, hday, hday'⟩ := d.valid
  obtain ⟨i, hi⟩ := Nat.exists_eq_add_of_le' hmonth
  obtain ⟨k, hk⟩ := Nat.exists_eq_add_of_le' hday
  rw [hi, hk] at hday'
  have hnext := daysBeforeMonth_next d.year (i := i) (j := 12) (by omega)
  rw [daysBeforeMonth_thirteen] at hnext
  exact ⟨i, k, hi, hk, by omega, by omega⟩

/-- **A date is found from a number exactly if the number is its own.** -/
theorem ofDayNumber?_eq_some_iff {n : Int} {d : Date} :
    ofDayNumber? n = some d ↔ d.dayNumber = n := by
  obtain ⟨hyear, hwithin⟩ := yearOf_spec (n + epochDays)
  obtain ⟨i, k, hfound, _, hk, hmonth⟩ := monthOf_before hwithin
  have hlookup : ofDayNumber? n = ofParts? (yearOf (n + epochDays)).1 (i + 1) (k + 1) := by
    rw [ofDayNumber?]
    simp only [show [1, 2, 3, 4, 5, 6, 7, 8, 9, 10, 11, 12] = List.range' 1 12 from rfl, hfound]
  rw [hlookup, ofParts?_eq_some_iff, dayNumber]
  constructor
  · rintro ⟨hy, hm, hd⟩
    rw [hy, hm, hd]
    omega
  · intro hn
    obtain ⟨j, l, hm, hd, hl, hplace⟩ := exists_place d
    rw [hm, hd] at hn
    -- First the years agree, being periods of days, and then the months of that year.
    obtain ⟨hsame, hbefore⟩ := eq_of_periods daysBeforeYear (fun year => yearLength year)
      (fun a b => daysBeforeYear_next) (Int.ofNat_lt.mpr hplace) (Int.ofNat_lt.mpr hwithin)
      (by omega)
    rw [hsame] at hbefore hl
    obtain ⟨rfl, rfl⟩ := eq_of_periods
      (fun month => daysBeforeMonth (yearOf (n + epochDays)).1 (month + 1))
      (fun month => daysIn (yearOf (n + epochDays)).1 (month + 1))
      (fun a b h => by exact_mod_cast daysBeforeMonth_next _ h)
      (Int.ofNat_lt.mpr hl) (Int.ofNat_lt.mpr hk) (by omega)
    exact ⟨hsame, hm, hd⟩

end Date

end Criteria
