/-
  Criteria/Proofs/Calendar/Chronology.lean
  ========================================
  **The order of date-times is the order of their places in time.**  Dates and
  times of day are compared part by part, from the greatest part down.  Where the
  parts of two things put them in the places they have, comparing the parts is
  comparing the places (`then_compare_eq`).  So dates are in the order of their day
  numbers, and date-times in the order of one count of nanoseconds, in which every
  second has room for a leap second behind it.
-/
import Criteria.Calendar.DateTime
import Criteria.Proofs.Calendar.DayCount
import Mathlib.Order.Compare

namespace Criteria

/-! ### Comparison by parts -/

section

variable {α β : Type} [LinearOrder α] [LinearOrder β] {a a' : α} {x x' : β}

/-- A comparison by one part, and where it ties by another, is the comparison of places that the
    parts make in that order. -/
theorem then_compare_eq {o : Ordering} (hlt : a < a' → x < x') (hgt : a' < a → x' < x)
    (heq : a = a' → o = compare x x') : (compare a a').then o = compare x x' := by
  rcases lt_trichotomy a a' with h | h | h
  · rw [compare_lt_iff_lt.mpr h, compare_lt_iff_lt.mpr (hlt h)]
    rfl
  · rw [compare_eq_iff_eq.mpr h, ← heq h]
    rfl
  · rw [compare_gt_iff_gt.mpr h, compare_gt_iff_gt.mpr (hgt h)]
    rfl

/-- A comparison by the one part that tells two things apart. -/
theorem compare_eq_compare (hlt : a < a' → x < x') (hgt : a' < a → x' < x)
    (heq : a = a' → x = x') : compare a a' = compare x x' := by
  rw [← then_compare_eq hlt hgt fun h => (compare_eq_iff_eq.mpr (heq h)).symm, Ordering.then_eq]

end

/-! ### Dates -/

namespace Date

open Calendar

/-- **Dates are in the order of their day numbers.** -/
theorem order_eq_compare (a b : Date) : a.order b = compare a.dayNumber b.dayNumber := by
  have hyears := a.dayNumber_within
  have hyears' := b.dayNumber_within
  obtain ⟨i, k, hmonth, hday, hk, _⟩ := exists_place a
  obtain ⟨j, l, hmonth', hday', hl, _⟩ := exists_place b
  refine then_compare_eq (fun hlt => ?_) (fun hgt => ?_) fun hyear =>
    then_compare_eq (fun hlt => ?_) (fun hgt => ?_) fun hsame => ?_
  · have := daysBeforeYear_mono (show a.year + 1 ≤ b.year by omega)
    omega
  · have := daysBeforeYear_mono (show b.year + 1 ≤ a.year by omega)
    omega
  · have := daysBeforeMonth_next b.year (show i < j by omega)
    rw [dayNumber, dayNumber, hmonth, hmonth', hyear]
    rw [hyear] at hk
    omega
  · have := daysBeforeMonth_next b.year (show j < i by omega)
    rw [dayNumber, dayNumber, hmonth, hmonth', hyear]
    omega
  · rw [dayNumber, dayNumber, hsame, hyear]
    exact compare_eq_compare (by omega) (by omega) (by omega)

end Date

/-! ### Times of day -/

namespace TimeOfDay

/-- The place of a time in its day. -/
def place (t : TimeOfDay) : Nat := t.seconds * 2000000000 + t.nano

theorem place_lt (t : TimeOfDay) : t.place < 172800000000000 := by
  obtain ⟨hhour, hminute, hsecond, hnano⟩ := t.valid
  unfold place seconds
  omega

theorem order_eq_compare (a b : TimeOfDay) : a.order b = compare a.place b.place := by
  obtain ⟨hhour, hminute, hsecond, hnano⟩ := a.valid
  obtain ⟨hhour', hminute', hsecond', hnano'⟩ := b.valid
  unfold place seconds
  refine then_compare_eq (by omega) (by omega) fun _ =>
    then_compare_eq (by omega) (by omega) fun _ =>
      then_compare_eq (by omega) (by omega) fun _ =>
        compare_eq_compare (by omega) (by omega) (by omega)

theorem place_inj {a b : TimeOfDay} (h : a.place = b.place) : a = b := by
  obtain ⟨hhour, hminute, hsecond, hnano⟩ := a.valid
  obtain ⟨hhour', hminute', hsecond', hnano'⟩ := b.valid
  have hparts : a.hour = b.hour ∧ a.minute = b.minute ∧ a.second = b.second ∧ a.nano = b.nano := by
    unfold place seconds at h
    omega
  cases a
  cases b
  simpa only [mk.injEq] using hparts

end TimeOfDay

/-! ### Date-times -/

namespace DateTime

/-- The place of a date-time in time. -/
def place (t : DateTime) : Int := t.date.dayNumber * 172800000000000 + t.time.place

/-- **Date-times are in the order of their places.** -/
theorem order_eq_compare (a b : DateTime) : a.order b = compare a.place b.place := by
  have htime := a.time.place_lt
  have htime' := b.time.place_lt
  unfold place
  rw [order, Date.order_eq_compare, TimeOfDay.order_eq_compare]
  exact then_compare_eq (by omega) (by omega) fun _ =>
    compare_eq_compare (by omega) (by omega) (by omega)

/-- A place is that of one date-time. -/
theorem place_inj {a b : DateTime} (h : a.place = b.place) : a = b := by
  have htime := a.time.place_lt
  have htime' := b.time.place_lt
  obtain ⟨date, time⟩ := a
  obtain ⟨date', time'⟩ := b
  simp only [place] at h htime htime'
  rw [Date.dayNumber_inj (show date.dayNumber = date'.dayNumber by omega),
    TimeOfDay.place_inj (show time.place = time'.place by omega)]

theorem order_eq_iff (a b : DateTime) : a.order b = .eq ↔ a = b := by
  rw [order_eq_compare, compare_eq_iff_eq]
  exact ⟨place_inj, congrArg place⟩

end DateTime

end Criteria
