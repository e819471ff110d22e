/-
  Criteria/Proofs/Calendar/Clock.lean
  ===================================
  **What a clock shows of a time.**  A time is shown by hours, minutes, seconds and
  a fraction, and a leap second by the number of the second behind.  After second
  59 that number is 60, which no other time has.  After any other second it is the
  number of a second that has times of its own; the time shown is then one of
  those (`TimeOfDay.shown`).  Hence a text is that of the time it shows
  (`DateTime.textWith_shown`), and no more than that can be read from it.
-/
import Criteria.Calendar.DateTime
import Mathlib.Tactic.SplitIfs

namespace Criteria

open Calendar

namespace TimeOfDay

theorem ofParts?_eq_some_iff {hour minute second nano : Nat} {t : TimeOfDay} :
    ofParts? hour minute second nano = some t ↔
      (t.hour = hour ∧ t.minute = minute ∧ t.second = second ∧ t.nano = nano) ∧ t.IsShown := by
  unfold ofParts?
  rw [Option.dite_none_right_eq_some]
  constructor
  · rintro ⟨⟨_, hshown⟩, h⟩
    rw [← Option.some.inj h]
    exact ⟨⟨rfl, rfl, rfl, rfl⟩, hshown⟩
  · rintro ⟨⟨rfl, rfl, rfl, rfl⟩, hshown⟩
    exact ⟨⟨t.valid, hshown⟩, rfl⟩

/-- The time that a clock shows. -/
def shown (t : TimeOfDay) : TimeOfDay :=
  if h : t.IsShown then t
  else ⟨t.hour, t.minute, t.second + 1, t.nano - 1000000000, by
    obtain ⟨hhour, hminute, hsecond, hnano⟩ := t.valid
    simp only [IsShown, Shown, not_or] at h
    exact ⟨hhour, hminute, by omega, by omega⟩⟩

variable (t : TimeOfDay)

theorem isShown_shown : t.shown.IsShown := by
  unfold shown
  split_ifs with h
  · exact h
  · have hnano := t.valid.2.2.2
    exact .inl (by simp only; omega)

theorem shown_eq_self_iff : t.shown = t ↔ t.IsShown := by
  constructor
  · intro h
    rw [← h]
    exact t.isShown_shown
  · intro h
    rw [shown, dif_pos h]

@[simp] theorem hour_shown : t.shown.hour = t.hour := by
  unfold shown
  split_ifs <;> rfl

@[simp] theorem minute_shown : t.shown.minute = t.minute := by
  unfold shown
  split_ifs <;> rfl

/-- The nanoseconds of a minute are those that are shown. -/
theorem nanos_shown :
    t.shown.second * 1000000000 + t.shown.nano = t.second * 1000000000 + t.nano := by
  unfold shown
  split_ifs with h
  · rfl
  · simp only [IsShown, Shown, not_or] at h
    simp only
    omega

end TimeOfDay

namespace DateTime

def shown (t : DateTime) : DateTime := ⟨t.date, t.time.shown⟩

variable (t : DateTime)

@[simp] theorem date_shown : t.shown.date = t.date := rfl

theorem shown_eq_self_iff : t.shown = t ↔ t.time.IsShown := by
  rw [← TimeOfDay.shown_eq_self_iff]
  exact ⟨congrArg DateTime.time, fun h => by rw [shown, h]⟩

/-! ### Texts -/

theorem clockText_shown (t : TimeOfDay) : clockText t.shown = clockText t := by
  have hsecond : t.shown.second + t.shown.nano / 1000000000 = t.second + t.nano / 1000000000 := by
    have := t.nanos_shown
    omega
  rw [clockText, t.hour_shown, t.minute_shown, hsecond, clockText]

theorem fraction_shown (t : TimeOfDay) : fraction t.shown = fraction t := by
  have := t.nanos_shown
  unfold fraction
  omega

/-- **A text shows no more than a clock does.** -/
theorem textWith_shown (separator : Char) : t.shown.textWith separator = t.textWith separator := by
  rw [textWith, shown, clockText_shown, fraction_shown, textWith]

end DateTime

end Criteria
