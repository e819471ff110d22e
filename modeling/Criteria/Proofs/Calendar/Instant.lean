/-
  Criteria/Proofs/Calendar/Instant.lean
  =====================================
  **Instants, and the days that wall clocks show.**  An instant is a second of
  universal time and a part of it.  A wall clock some seconds east of universal
  time shows the day that so many seconds more fall on, counted from 1970 forwards
  and backwards alike.  A shifted date is found exactly if the calendar reaches it.
-/
import Criteria.Calendar.Offset
import Criteria.Proofs.Calendar.DayCount

namespace Criteria

theorem TimeOfDay.seconds_lt (t : TimeOfDay) : t.seconds < 86400 := by
  obtain ⟨hhour, hminute, hsecond, _⟩ := t.valid
  unfold seconds
  omega

/-! ### Instants -/

/-- A second counted from the start of 1970 in universal time, and the nanoseconds in it.  A leap
    second is the rest of the second before it. -/
structure Instant where
  second : Int
  nano : Nat
  deriving DecidableEq, Repr

namespace Instant

def before (x y : Instant) : Bool :=
  x.second < y.second || (x.second == y.second && x.nano < y.nano)

/-- An instant some days later, or earlier. -/
def plusDays (x : Instant) (days : Int) : Instant := ⟨x.second + 86400 * days, x.nano⟩

/-- The day that a wall clock shows, so many seconds east of universal time. -/
def dayAt (x : Instant) (east : Int) : Int := (x.second + east) / 86400

/-- The instant at which the day began that a wall clock shows. -/
def startOfDay (x : Instant) (east : Int) : Instant := ⟨86400 * x.dayAt east - east, 0⟩

theorem before_iff (x y : Instant) :
    x.before y = true ↔ x.second < y.second ∨ (x.second = y.second ∧ x.nano < y.nano) := by
  simp [before]

theorem dayAt_plusDays (x : Instant) (days east : Int) :
    (x.plusDays days).dayAt east = x.dayAt east + days := by
  simp only [dayAt, plusDays]
  omega

/-- The instants before the start of a day are those of the days before it. -/
theorem before_startOfDay_iff (x y : Instant) (east : Int) :
    x.before (y.startOfDay east) = true ↔ x.dayAt east < y.dayAt east := by
  rw [before_iff]
  simp only [startOfDay, dayAt]
  omega

end Instant

/-! ### Wall clocks -/

/-- The instant at which a wall clock in a zone shows a date-time. -/
def DateTime.instantIn (t : DateTime) (zone : Offset) : Instant :=
  ⟨86400 * t.date.dayNumber + t.time.seconds - zone.seconds, t.time.nano⟩

namespace DateTime

theorem dayAt_instantIn (t : DateTime) (zone : Offset) :
    (t.instantIn zone).dayAt zone.seconds = t.date.dayNumber := by
  have := t.time.seconds_lt
  simp only [instantIn, Instant.dayAt]
  omega

theorem dayAt_instantIn_utc (now : DateTime) (zone : Offset) :
    (now.instantIn .utc).dayAt zone.seconds = now.localDay zone := by
  simp only [instantIn, Instant.dayAt, localDay, Offset.utc]
  omega

end DateTime

/-! ### Shifted dates -/

/-- The magnitude of every number of 64 bits, the least included, is a number of 64 bits without a
    sign. -/
theorem Calendar.toNat_magnitude (days : Int64) : days.abs.toUInt64.toNat = days.toInt.natAbs := by
  have hbound := days.toBitVec.isLt
  rw [← UInt64.toNat_toBitVec, Int64.toBitVec_toUInt64, Int64.toBitVec_abs, BitVec.toNat_abs,
    ← Int64.toInt_toBitVec, BitVec.toInt_eq_msb_cond]
  split <;> omega

namespace DateTime

variable {now : DateTime} {zone : Offset} {days : Int64}

/-- The calendar has a date for the day that a wall clock in the zone shows. -/
def InCalendar (now : DateTime) (zone : Offset) : Prop :=
  Date.first.dayNumber ≤ now.localDay zone ∧ now.localDay zone ≤ Date.last.dayNumber

instance (now : DateTime) (zone : Offset) : Decidable (now.InCalendar zone) :=
  inferInstanceAs (Decidable (_ ∧ _))

theorem localDate?_eq_some_iff {d : Date} :
    now.localDate? zone = some d ↔ d.dayNumber = now.localDay zone :=
  Date.ofDayNumber?_eq_some_iff

theorem inCalendar_iff : now.InCalendar zone ↔ ∃ today, now.localDate? zone = some today := by
  simp only [localDate?_eq_some_iff]
  exact Date.exists_dayNumber_iff.symm

theorem localDate?_eq_none_iff : now.localDate? zone = none ↔ ¬ now.InCalendar zone := by
  rw [inCalendar_iff, ← Option.isSome_iff_exists, Option.not_isSome_iff_eq_none]

/-- **Forwards and backwards are one addition**: the branches for the two signs, and the magnitude
    without one, make the day number that the number of days itself makes. -/
theorem shiftedToday_eq_ofDayNumber? (h : now.InCalendar zone) (days : Int64) :
    now.shiftedToday zone days = some (Date.ofDayNumber? (now.localDay zone + days.toInt)) := by
  obtain ⟨today, htoday⟩ := inCalendar_iff.mp h
  have hday := localDate?_eq_some_iff.mp htoday
  have hsign : 0 ≤ days ↔ 0 ≤ days.toInt := Int64.le_iff_toInt_le
  rw [shiftedToday, htoday, Option.bind_eq_bind, Option.bind_some, Option.pure_def]
  by_cases hforwards : 0 ≤ days
  · have hcount := hsign.mp hforwards
    simp only [if_pos hforwards, Date.plusDays?, Calendar.toNat_magnitude, hday,
      Int.natAbs_of_nonneg hcount]
  · have hcount : days.toInt ≤ 0 := by
      rw [hsign] at hforwards
      omega
    simp only [if_neg hforwards, Date.minusDays?, Calendar.toNat_magnitude, hday,
      Int.ofNat_natAbs_of_nonpos hcount, Int.sub_neg]

theorem shiftedToday_eq_none_iff : now.shiftedToday zone days = none ↔ ¬ now.InCalendar zone := by
  constructor
  · intro hnone h
    rw [shiftedToday_eq_ofDayNumber? h] at hnone
    exact nomatch hnone
  · intro h
    rw [shiftedToday, localDate?_eq_none_iff.mpr h]
    rfl

/-- **The shifted date is the one with the number of that day.** -/
theorem shiftedToday_eq_some_iff (h : now.InCalendar zone) {d : Date} :
    now.shiftedToday zone days = some (some d) ↔
      d.dayNumber = (now.instantIn .utc).dayAt zone.seconds + days.toInt := by
  rw [shiftedToday_eq_ofDayNumber? h, Option.some.injEq, Date.ofDayNumber?_eq_some_iff,
    dayAt_instantIn_utc]

end DateTime

end Criteria
