/-
  Criteria/Proofs/RelativeDays.lean
  =================================
  **Relative days are arithmetic of day numbers.**  A wall clock in a zone shows the
  day that the seconds since 1970 make in that zone, rounded down, and a relative
  day is that number and a shift (`shiftedToday_eq_ofDayNumber?`).  All that memory
  asks of a field is whether its date has the number; so a clock that has gone on by
  a day turns the answer for tomorrow into the answer for today.

  All of it needs a date for today: the reading of the clock fails before anything
  is shifted where the zone has none (`DateTime.InCalendar`).
-/
import Criteria.Proofs.Calendar.DayCount
import Criteria.Proofs.Calendar.Instant
import Criteria.Proofs.Condition.Denial

namespace Criteria

/-! ### Operators -/

namespace Operator

theorem family_of_dayOffset? {o : Operator} {days : Int64} (h : o.dayOffset? = some days) :
    o.family = .relativeDay days := by
  unfold dayOffset? at h
  cases hf : o.family with
  | relativeDay d =>
    simp only [hf, Option.some.injEq] at h
    rw [h]
  | nullCheck | equality | ordering => simp [hf] at h
  | substring kind | anyToken kind => simp [hf] at h

end Operator

/-! ### The day of a moment -/

/-- The number of the day that a wall clock in the zone shows: whole days of the seconds since
    1970, rounded down. -/
def Moment.day (m : Moment) : Int := ((m.now.instantIn .utc).second + m.zone.seconds) / 86400

theorem Moment.day_eq_localDay (m : Moment) : m.day = m.now.localDay m.zone :=
  m.now.dayAt_instantIn_utc m.zone

theorem onDay_eq_true_iff {m : Moment} (h : m.now.InCalendar m.zone) {days : Int64} {w : Value} :
    onDay m days w = true ↔
      ∃ t, w = .time t ∧ t.date.dayNumber = m.now.localDay m.zone + days.toInt := by
  cases w with
  | time t =>
    rw [onDay, beq_iff_eq, DateTime.shiftedToday_eq_some_iff h, DateTime.dayAt_instantIn_utc]
    simp
  | null | number x | text s => simp [onDay]

/-- Of a moment and a shift only the day matters that they make together. -/
theorem onDay_eq_of_day {m m' : Moment} (h : m.now.InCalendar m.zone)
    (h' : m'.now.InCalendar m'.zone) {days days' : Int64}
    (hday : m.day + days.toInt = m'.day + days'.toInt) : onDay m days = onDay m' days' := by
  funext w
  rw [Bool.eq_iff_iff, onDay_eq_true_iff h, onDay_eq_true_iff h', ← m.day_eq_localDay,
    ← m'.day_eq_localDay, hday]

/-- A clock that has gone on by whole days shows a day as much later. -/
theorem Moment.day_of_later {m m' : Moment} {count : Int} (hzone : m'.zone = m.zone)
    (h : (m'.now.instantIn .utc).second = (m.now.instantIn .utc).second + 86400 * count) :
    m'.day = m.day + count := by
  rw [day, day, hzone, h]
  omega

/-! ### Conditions -/

namespace Condition

section

variable {c : Condition} {days : Int64} (htype : c.valueType = .time)
  (hf : c.operator.family = .relativeDay days)

include htype hf

theorem isSupported_relativeDay : c.isSupported = true := by
  simp [isSupported, Operator.supports, Operator.valueTypes, hf, htype]

omit htype in
theorem normalized_relativeDay :
    c.normalized = .ok (nullary c.identifier c.valueType c.operator) := by
  have harity : c.operator.arity = .nullary := by rw [Operator.arity, hf]
  exact normalized_of_nullary harity

variable {m : Moment} (hnow : m.now.InCalendar m.zone)

include hnow

/-- A condition on a relative day asks a field for its day, and fails only where there is no field
    to ask. -/
theorem evaluate_eq_map_onDay (r : Record) :
    c.evaluate m r = (c.fieldOf r).map (onDay m days) := by
  rw [evaluate, if_pos (isSupported_relativeDay htype hf), normalized_relativeDay hf]
  cases c.fieldOf r with
  | error e => rfl
  | ok field =>
    simp only [Except.mapError, bind, Except.bind, panics_of_inCalendar hnow, Except.map, holds,
      nullary, hf, Bool.false_eq_true, if_false]

theorem evaluate_onDay {r : Record} {v field : Value} (hv : r.field? c.identifier = some v)
    (hfield : c.valueType.coerce v = .ok field) : c.evaluate m r = .ok (onDay m days field) := by
  rw [evaluate_eq_map_onDay htype hf hnow, fieldOf, hv]
  simp only [hfield, Except.mapError, Except.map]

theorem evaluate_relativeDay {r : Record} {t : DateTime}
    (hfield : r.field? c.identifier = some (.time t)) :
    c.evaluate m r = .ok (m.now.shiftedToday m.zone days == some (some t.date)) := by
  have hcoerce : c.valueType.coerce (.time t) = .ok (.time t) := by rw [htype]; rfl
  rw [evaluate_onDay htype hf hnow hfield hcoerce, onDay]

end

variable {c : Condition} (htype : c.valueType = .time) {m : Moment}
  (hnow : m.now.InCalendar m.zone)

include htype hnow

/-- **The clock and the operator make the day together**: whatever the record holds, or lacks, one
    day has one answer. -/
theorem evaluate_eq_of_day {o o' : Operator} {days days' : Int64} (ho : o.dayOffset? = some days)
    (ho' : o'.dayOffset? = some days') {m' : Moment} (hnow' : m'.now.InCalendar m'.zone)
    (h : m.day + days.toInt = m'.day + days'.toInt) (r : Record) :
    (c.withOperator o).evaluate m r = (c.withOperator o').evaluate m' r := by
  have hanswer := evaluate_eq_map_onDay (c := c.withOperator o) htype
    (Operator.family_of_dayOffset? ho) hnow r
  have hanswer' := evaluate_eq_map_onDay (c := c.withOperator o') htype
    (Operator.family_of_dayOffset? ho') hnow' r
  rw [hanswer, hanswer', onDay_eq_of_day hnow hnow' h]
  rfl

theorem evaluate_withOperator_onDay {o : Operator} {days : Int64} (ho : o.dayOffset? = some days)
    {r : Record} {v w : Value} (hv : r.field? c.identifier = some v)
    (hw : c.valueType.coerce v = .ok w) :
    (c.withOperator o).evaluate m r = .ok (onDay m days w) :=
  evaluate_onDay (c := c.withOperator o) htype (Operator.family_of_dayOffset? ho) hnow hv hw

end Condition

/-! ### Yesterday, today and tomorrow -/

namespace Moment

variable {m : Moment}

/-- The calendar reaches the day of a moment. -/
theorem inCalendar_iff_day : m.now.InCalendar m.zone ↔
    Date.first.dayNumber ≤ m.day ∧ m.day ≤ Date.last.dayNumber := by
  rw [m.day_eq_localDay, DateTime.InCalendar]

section

variable (hnow : m.now.InCalendar m.zone)

include hnow

theorem shiftedToday_eq_date_iff {days : Int64} {d : Date} :
    m.now.shiftedToday m.zone days = some (some d) ↔ d.dayNumber = m.day + days.toInt :=
  DateTime.shiftedToday_eq_some_iff hnow

theorem shiftedToday_eq_no_date_iff {days : Int64} :
    m.now.shiftedToday m.zone days = some none ↔
      ¬ (Date.first.dayNumber ≤ m.day + days.toInt ∧
        m.day + days.toInt ≤ Date.last.dayNumber) := by
  rw [← Date.exists_dayNumber_iff, DateTime.shiftedToday_eq_ofDayNumber? hnow, Option.some.injEq,
    Option.eq_none_iff_forall_ne_some, m.day_eq_localDay]
  simp only [ne_eq, Date.ofDayNumber?_eq_some_iff, not_exists]

/-- One field is dated on one day. -/
theorem onDay_unique {w : Value} {days days' : Int64} (h : onDay m days w = true)
    (h' : onDay m days' w = true) : days = days' := by
  obtain ⟨t, rfl, ht⟩ := (onDay_eq_true_iff hnow).mp h
  obtain ⟨t', heq, ht'⟩ := (onDay_eq_true_iff hnow).mp h'
  rw [← Value.time.inj heq] at ht'
  exact Int64.toInt_inj.mp (by omega)

theorem onDay_time_iff (t : DateTime) (days : Int64) :
    onDay m days (.time t) = true ↔ t.date.dayNumber - m.day = days.toInt := by
  rw [onDay_eq_true_iff hnow, ← m.day_eq_localDay]
  simp only [Value.time.injEq, exists_eq_left']
  omega

/-- Of yesterday, today and tomorrow at most one holds of a field. -/
theorem count_onDay_le_one (w : Value) :
    [onDay m (-1) w, onDay m 0 w, onDay m 1 w].count true ≤ 1 := by
  have hfirst : onDay m (-1) w = true → onDay m 0 w = true → (-1 : Int64) = 0 := onDay_unique hnow
  have hlast : onDay m 0 w = true → onDay m 1 w = true → (0 : Int64) = 1 := onDay_unique hnow
  have houter : onDay m (-1) w = true → onDay m 1 w = true → (-1 : Int64) = 1 := onDay_unique hnow
  revert hfirst hlast houter
  cases onDay m (-1) w <;> cases onDay m 0 w <;> cases onDay m 1 w <;> decide

end

/-- **Relative days are arithmetic of day numbers**, which count the days from 1970 forwards and
    backwards.  Today in the zone cannot be told exactly if the calendar does not reach its day.
    Else every number of days of 64 bits, of either sign, leads to the date whose number is that of
    the day in the zone, shifted, and there is none exactly if the calendar does not reach it.  In
    memory a field is dated yesterday, today or tomorrow exactly if its number differs by so much
    from the day's, at most one of the three holds of a field, and none of a null.  Two clocks a day
    apart have the same answer for the later day of the one and the earlier day of the other. -/
theorem relativeDays_by_number (m : Moment) :
    (Date.dayNumber ⟨1970, 1, 1, by decide⟩ = 0 ∧
      ∀ d e : Date, d.next? = some e ↔ e.dayNumber = d.dayNumber + 1) ∧
    (∀ days, m.now.shiftedToday m.zone days = none ↔
      ¬ (Date.first.dayNumber ≤ m.day ∧ m.day ≤ Date.last.dayNumber)) ∧
    (Date.first.dayNumber ≤ m.day ∧ m.day ≤ Date.last.dayNumber →
      (∀ (days : Int64) (d : Date), m.now.shiftedToday m.zone days = some (some d) ↔
        d.dayNumber = m.day + days.toInt) ∧
      (∀ days : Int64, m.now.shiftedToday m.zone days = some none ↔
        ¬ (Date.first.dayNumber ≤ m.day + days.toInt ∧
          m.day + days.toInt ≤ Date.last.dayNumber)) ∧
      ∀ c : Condition, c.valueType = .time →
        (∀ (r : Record) (v w : Value), r.field? c.identifier = some v →
          c.valueType.coerce v = .ok w → ∃ yesterday today tomorrow,
            (c.withOperator .yesterday).evaluate m r = .ok yesterday ∧
            (c.withOperator .today).evaluate m r = .ok today ∧
            (c.withOperator .tomorrow).evaluate m r = .ok tomorrow ∧
            (∀ t, w = .time t →
              (yesterday = true ↔ t.date.dayNumber - m.day = -1) ∧
              (today = true ↔ t.date.dayNumber - m.day = 0) ∧
              (tomorrow = true ↔ t.date.dayNumber - m.day = 1)) ∧
            (w = .null → yesterday = false ∧ today = false ∧ tomorrow = false) ∧
            [yesterday, today, tomorrow].count true ≤ 1) ∧
        ∀ (r : Record) (m' m'' : Moment), m'.zone = m.zone → m''.zone = m.zone →
          (m'.now.instantIn .utc).second = (m.now.instantIn .utc).second + 86400 →
          (m''.now.instantIn .utc).second = (m.now.instantIn .utc).second + 86400 * 2 →
          (Date.first.dayNumber ≤ m'.day ∧ m'.day ≤ Date.last.dayNumber) →
          (Date.first.dayNumber ≤ m''.day ∧ m''.day ≤ Date.last.dayNumber) →
          (c.withOperator .tomorrow).evaluate m r = (c.withOperator .today).evaluate m' r ∧
          (c.withOperator .today).evaluate m' r = (c.withOperator .yesterday).evaluate m'' r) := by
  simp only [← inCalendar_iff_day]
  refine ⟨⟨by decide, fun d e => Date.next?_eq_some_iff⟩,
    fun days => DateTime.shiftedToday_eq_none_iff, fun hnow =>
      ⟨fun days d => shiftedToday_eq_date_iff hnow, fun days => shiftedToday_eq_no_date_iff hnow,
        fun c htype => ⟨?_, ?_⟩⟩⟩
  · intro r v w hv hw
    refine ⟨onDay m (-1) w, onDay m 0 w, onDay m 1 w,
      Condition.evaluate_withOperator_onDay htype hnow rfl hv hw,
      Condition.evaluate_withOperator_onDay htype hnow rfl hv hw,
      Condition.evaluate_withOperator_onDay htype hnow rfl hv hw, ?_, ?_, count_onDay_le_one hnow w⟩
    · rintro t rfl
      exact ⟨onDay_time_iff hnow t (-1), onDay_time_iff hnow t 0, onDay_time_iff hnow t 1⟩
    · rintro rfl
      exact ⟨rfl, rfl, rfl⟩
  · intro r m' m'' hzone hzone' hlater hlater' hnow' hnow''
    have hday : m'.day = m.day + 1 := day_of_later hzone (by omega)
    have hday' : m''.day = m.day + 2 := day_of_later hzone' (by omega)
    have hforward : (1 : Int64).toInt = 1 := by decide
    have hbackward : (-1 : Int64).toInt = -1 := by decide
    have hdays : m.day + (1 : Int64).toInt = m'.day + (0 : Int64).toInt := by
      rw [hday, hforward, Int64.toInt_zero, Int.add_zero]
    have hdays' : m'.day + (0 : Int64).toInt = m''.day + (-1 : Int64).toInt := by
      rw [hday, hday', hbackward, Int64.toInt_zero]
      omega
    exact ⟨Condition.evaluate_eq_of_day htype hnow rfl rfl hnow' hdays r,
      Condition.evaluate_eq_of_day htype hnow' rfl rfl hnow'' hdays' r⟩

/-- A clock just past the start of 1970, in a zone where that is still the last day of 1969.  The
    day before is found, no date so far back as the least number of 64 bits is, and a leap second
    is part of the day that it ends. -/
theorem relativeDays_by_number_before :
    DateTime.shiftedToday ⟨⟨1970, 1, 1, by decide⟩, ⟨0, 29, 59, 0, by decide⟩⟩ ⟨-3600, by decide⟩
        (-1) = some (some ⟨1969, 12, 30, by decide⟩) ∧
      DateTime.shiftedToday ⟨⟨1970, 1, 1, by decide⟩, ⟨0, 29, 59, 0, by decide⟩⟩
        ⟨-3600, by decide⟩ Int64.minValue = some none ∧
      Condition.evaluate
        ⟨⟨⟨1970, 1, 1, by decide⟩, ⟨0, 29, 59, 0, by decide⟩⟩, ⟨-3600, by decide⟩⟩
        (.nullary "at" .time .yesterday) (.plain [("at", .text "1969-12-30 23:59:60.500")]) =
        .ok true ∧
      Condition.evaluate
        ⟨⟨⟨1970, 1, 1, by decide⟩, ⟨0, 29, 59, 0, by decide⟩⟩, ⟨-3600, by decide⟩⟩
        (.nullary "at" .time .tomorrow) (.plain [("at", .text "1970-01-01")]) =
      Condition.evaluate
        ⟨⟨⟨1970, 1, 2, by decide⟩, ⟨0, 29, 59, 0, by decide⟩⟩, ⟨-3600, by decide⟩⟩
        (.nullary "at" .time .today) (.plain [("at", .text "1970-01-01")]) := by
  have hcoerce : ValueType.coerce .time (.text "1969-12-30 23:59:60.500") =
      .ok (.time ⟨⟨1969, 12, 30, by decide⟩, ⟨23, 59, 59, 1500000000, by decide⟩⟩) := by
    decide +kernel
  obtain ⟨-, -, hinside⟩ := relativeDays_by_number
    ⟨⟨⟨1970, 1, 1, by decide⟩, ⟨0, 29, 59, 0, by decide⟩⟩, ⟨-3600, by decide⟩⟩
  obtain ⟨hsome, hnone, hfields⟩ := hinside (by decide)
  obtain ⟨hanswers, hlater⟩ := hfields (.nullary "at" .time .today) rfl
  obtain ⟨yesterday, today, tomorrow, hyesterday, -, -, htimes, -, -⟩ :=
    hanswers (.plain [("at", .text "1969-12-30 23:59:60.500")]) _ _ rfl hcoerce
  have htrue : yesterday = true := (htimes _ rfl).1.mpr (by decide)
  obtain ⟨htomorrow, -⟩ := hlater (.plain [("at", .text "1970-01-01")])
    ⟨⟨⟨1970, 1, 2, by decide⟩, ⟨0, 29, 59, 0, by decide⟩⟩, ⟨-3600, by decide⟩⟩
    ⟨⟨⟨1970, 1, 3, by decide⟩, ⟨0, 29, 59, 0, by decide⟩⟩, ⟨-3600, by decide⟩⟩ rfl rfl (by decide)
    (by decide) (by decide) (by decide)
  rw [htrue] at hyesterday
  exact ⟨(hsome _ _).mpr (by decide), (hnone _).mpr (by decide), hyesterday, htomorrow⟩

end Moment

end Criteria
