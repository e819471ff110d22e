/-
  Criteria/Proofs/Calendar/DayCount.lean
  ======================================
  **Day numbers count the days of the calendar.**  The day after a date is the next
  of its month, or the first of the next month, or the first of the next year: the
  first of these that the calendar has.  It is the date with the next number, and
  only the last date of the calendar has none.  A number is that of a date exactly
  if it lies between those of the first and of the last date.
-/
import Criteria.Proofs.Calendar.DayNumber

namespace Criteria

open Calendar

theorem Calendar.daysBeforeYear_mono {a b : Int} (h : a ≤ b) :
    daysBeforeYear a ≤ daysBeforeYear b := by
  unfold daysBeforeYear
  omega

theorem Calendar.daysIn_pos (year : Int) (month : Nat) : 1 ≤ daysIn year month := by
  unfold daysIn
  split_ifs <;> omega

namespace Date

/-! ### The first and the last date -/

def first : Date := ⟨firstYear, 1, 1, by decide⟩

def last : Date := ⟨lastYear, 12, 31, by decide⟩

theorem dayNumber_first : first.dayNumber = daysBeforeYear firstYear - epochDays := by decide

theorem dayNumber_last : last.dayNumber = daysBeforeYear (lastYear + 1) - 1 - epochDays := by
  decide

/-- The year of a date holds its day. -/
theorem dayNumber_within (d : Date) :
    daysBeforeYear d.year - epochDays ≤ d.dayNumber ∧
      d.dayNumber < daysBeforeYear (d.year + 1) - epochDays := by
  obtain ⟨i, k, hm, hd, _, hplace⟩ := exists_place d
  rw [daysBeforeYear_succ, dayNumber, hm, hd]
  omega

theorem dayNumber_bounds (d : Date) :
    first.dayNumber ≤ d.dayNumber ∧ d.dayNumber ≤ last.dayNumber := by
  obtain ⟨⟨hfirst, hlast⟩, _⟩ := d.valid
  obtain ⟨hlow, hhigh⟩ := d.dayNumber_within
  have hyears := daysBeforeYear_mono hfirst
  have hyears' := daysBeforeYear_mono (show d.year + 1 ≤ lastYear + 1 by omega)
  rw [dayNumber_first, dayNumber_last]
  omega

theorem dayNumber_inj {d e : Date} (h : d.dayNumber = e.dayNumber) : d = e := by
  have hd := ofDayNumber?_eq_some_iff.mpr h
  have he := ofDayNumber?_eq_some_iff.mpr (rfl : e.dayNumber = e.dayNumber)
  rw [hd] at he
  exact Option.some.inj he

/-- A year and a day of it make a date, if the calendar reaches the year. -/
theorem exists_dayNumber_eq {n : Int} (h : first.dayNumber ≤ n ∧ n ≤ last.dayNumber) :
    ∃ d : Date, d.dayNumber = n := by
  obtain ⟨hlow, hhigh⟩ := h
  obtain ⟨hyear, hwithin⟩ := yearOf_spec (n + epochDays)
  generalize (yearOf (n + epochDays)).1 = year at hyear hwithin
  generalize (yearOf (n + epochDays)).2 = before at hyear hwithin
  rw [dayNumber_first] at hlow
  rw [dayNumber_last] at hhigh
  have hfirst : firstYear ≤ year := by
    by_contra hearly
    have := daysBeforeYear_next (show year < firstYear by omega)
    omega
  have hlast : year ≤ lastYear := by
    by_contra hlate
    have := daysBeforeYear_mono (show lastYear + 1 ≤ year by omega)
    omega
  obtain ⟨i, k, _, hi, hk, hmonth⟩ := monthOf_before hwithin
  refine ⟨⟨year, i + 1, k + 1, ⟨hfirst, hlast⟩, by omega, by omega⟩, ?_⟩
  simp only [dayNumber]
  omega

theorem exists_dayNumber_iff {n : Int} :
    (∃ d : Date, d.dayNumber = n) ↔ first.dayNumber ≤ n ∧ n ≤ last.dayNumber := by
  constructor
  · rintro ⟨d, rfl⟩
    exact d.dayNumber_bounds
  · exact exists_dayNumber_eq

/-! ### The day after -/

/-- The day after a date: of the same month, the next month or the next year. -/
def next? (d : Date) : Option Date :=
  (ofParts? d.year d.month (d.day + 1)).or
    ((ofParts? d.year (d.month + 1) 1).or (ofParts? (d.year + 1) 1 1))

theorem ofParts?_eq_none_iff {year : Int} {month day : Nat} :
    ofParts? year month day = none ↔ ¬ Valid year month day := by
  unfold ofParts?
  split
  · next h => simp [h]
  · next h => simp [h]

/-- A day without a next one in its month is the last of the month. -/
theorem day_of_not_valid {d : Date} (h : ¬ Valid d.year d.month (d.day + 1)) :
    d.day = daysIn d.year d.month := by
  obtain ⟨hyear, hmonth, hday, hday'⟩ := d.valid
  by_contra hne
  exact h ⟨hyear, hmonth, by omega, by omega⟩

/-- A month without a next one in its year is the twelfth. -/
theorem month_of_not_valid {d : Date} (h : ¬ Valid d.year (d.month + 1) 1) : d.month = 12 := by
  obtain ⟨hyear, ⟨hmonth, hmonth'⟩, _⟩ := d.valid
  by_contra hne
  exact h ⟨hyear, by omega, le_refl 1, daysIn_pos _ _⟩

theorem dayNumber_of_next? {d e : Date} (h : d.next? = some e) :
    e.dayNumber = d.dayNumber + 1 := by
  obtain ⟨i, k, hmonth, hday, _⟩ := exists_place d
  simp only [next?, Option.or_eq_some_iff, ofParts?_eq_none_iff, ofParts?_eq_some_iff] at h
  rw [dayNumber, dayNumber]
  rcases h with ⟨hy, hm, hd⟩ | ⟨hlast, ⟨hy, hm, hd⟩ | ⟨htwelfth, hy, hm, hd⟩⟩
  · rw [hy, hm, hd]
    omega
  · have hend := day_of_not_valid hlast
    have hnext := daysBeforeMonth_succ d.year i
    rw [hy, hm, hd, hend, hmonth, hnext]
    have := daysIn_pos d.year (i + 1)
    omega
  · have hend := day_of_not_valid hlast
    have hnext := daysBeforeYear_succ d.year
    have hlength := daysBeforeMonth_thirteen d.year
    have hdecember : daysBeforeMonth d.year 13 = daysBeforeMonth d.year 12 + daysIn d.year 12 :=
      daysBeforeMonth_succ d.year 11
    have hjanuary : daysBeforeMonth (d.year + 1) 1 = 0 := rfl
    have := daysIn_pos d.year 12
    rw [hy, hm, hd, hend, month_of_not_valid htwelfth, hnext, ← hlength, hdecember, hjanuary]
    omega

/-- Only the last date has none after it. -/
theorem eq_last_of_next? {d : Date} (h : d.next? = none) : d = last := by
  simp only [next?, Option.or_eq_none_iff, ofParts?_eq_none_iff] at h
  obtain ⟨hday, hmonth, hyear⟩ := h
  have hend := day_of_not_valid hday
  have htwelve := month_of_not_valid hmonth
  have hlast : d.year = lastYear := by
    obtain ⟨⟨hfirst, hlast⟩, _⟩ := d.valid
    by_contra hne
    exact hyear ⟨by omega, by decide, le_refl 1, daysIn_pos _ _⟩
  have hthirtyFirst : d.day = 31 := by
    rw [hend, htwelve]
    rfl
  have hd : ofParts? lastYear 12 31 = some d :=
    ofParts?_eq_some_iff.mpr ⟨hlast, htwelve, hthirtyFirst⟩
  exact (Option.some.inj hd).symm

/-- **The day after a date is the one with the next number.** -/
theorem next?_eq_some_iff {d e : Date} : d.next? = some e ↔ e.dayNumber = d.dayNumber + 1 := by
  constructor
  · exact dayNumber_of_next?
  · intro h
    cases hnext : d.next? with
    | none =>
      have hbound := e.dayNumber_bounds.2
      rw [eq_last_of_next? hnext] at h
      omega
    | some e' =>
      rw [dayNumber_inj ((dayNumber_of_next? hnext).trans h.symm)]

end Date

end Criteria
