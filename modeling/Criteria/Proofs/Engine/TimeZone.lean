/-
  Criteria/Proofs/Engine/TimeZone.lean
  ====================================
  **What an engine keeps of a zone that it is given.**  A zone is kept as its text,
  which has no seconds, and is read back when the engine is built: so an engine works
  in the whole minutes of the zone.  Of a zone only the day that it shows matters to a
  condition, at one instant.  Hence nothing is lost if the zone is whole minutes, and
  otherwise nothing at the instants at which the odd seconds lie within one day.
-/
import Criteria.Proofs.Condition.Faults
import Criteria.Proofs.Engine.Assembly

namespace Criteria

/-! ### Moments that show one day -/

section

variable {m m' : Moment} (h : m.day = m'.day)

include h

theorem Moment.localDate?_congr_day :
    m.now.localDate? m.zone = m'.now.localDate? m'.zone := by
  rw [Moment.day_eq_localDay, Moment.day_eq_localDay] at h
  rw [DateTime.localDate?, DateTime.localDate?, h]

theorem Condition.holds_congr_day (n : Condition) (v : Value) : n.holds m v = n.holds m' v := by
  have hday : ∀ days, onDay m days = onDay m' days := by
    intro days
    funext w
    cases w with
    | time t => simp only [onDay, DateTime.shiftedToday, Moment.localDate?_congr_day h]
    | null | number x | text s => rfl
  unfold holds
  cases n.operator.family with
  | relativeDay days => simp only [hday]
  | nullCheck | equality | ordering => rfl
  | substring kind | anyToken kind => rfl

theorem Condition.evaluate_congr_day (c : Condition) (r : Record) :
    c.evaluate m r = c.evaluate m' r := by
  have hpanics : ∀ n : Condition, n.panics m = n.panics m' := by
    intro n
    funext w
    cases w with
    | time t => simp only [panics, Moment.localDate?_congr_day h]
    | null | number x | text s => rfl
  simp only [evaluate, holds_congr_day h, hpanics]

/-- **Of a moment only its day matters**, to any list of conditions. -/
theorem evaluateAll_congr_day (cs : List (Condition × Record)) :
    evaluateAll m cs = evaluateAll m' cs := by
  induction cs with
  | nil => rfl
  | cons p cs ih => simp only [evaluateAll, Condition.evaluate_congr_day h, ih]

end

namespace Moment

/-- A zone shows the date of universal time, or one of its neighbours. -/
theorem day_bounds (m : Moment) :
    m.now.date.dayNumber - 1 ≤ m.day ∧ m.day ≤ m.now.date.dayNumber + 1 := by
  have hseconds := m.now.time.seconds_lt
  obtain ⟨hlow, hhigh⟩ := m.zone.bounded
  rw [day_eq_localDay, DateTime.localDay]
  omega

theorem exists_dayOffset (days : Int) (hlow : -1 ≤ days) (hhigh : days ≤ 1) :
    ∃ (o : Operator) (d : Int64), o.dayOffset? = some d ∧ d.toInt = days := by
  have hdays : days = -1 ∨ days = 0 ∨ days = 1 := by omega
  rcases hdays with rfl | rfl | rfl
  · exact ⟨.yesterday, _, rfl, rfl⟩
  · exact ⟨.today, _, rfl, rfl⟩
  · exact ⟨.tomorrow, _, rfl, rfl⟩

/-- At one instant zones that show no date show one day: the one before the first date, or the one
    after the last. -/
theorem day_eq_of_outside {m m' : Moment} (hnow : m.now = m'.now)
    (h : ¬ m.now.InCalendar m.zone) (h' : ¬ m'.now.InCalendar m'.zone) : m.day = m'.day := by
  rw [inCalendar_iff_day] at h h'
  have hbounds := m.day_bounds
  have hbounds' := m'.day_bounds
  have hdate := m.now.date.dayNumber_bounds
  have hfirst : Date.first.dayNumber + 1 < Date.last.dayNumber := by decide
  rw [← hnow] at hbounds'
  omega

/-- A condition on a relative day panics exactly where there is no date for today. -/
theorem evaluate_eq_panic_iff {o : Operator} (ho : o.isRelativeDate = true) (m : Moment)
    (t : DateTime) : Condition.evaluate m (.nullary "at" .time o) (.plain [("at", .time t)]) =
      .error .panic ↔ ¬ m.now.InCalendar m.zone := by
  obtain ⟨days, hf⟩ := Operator.isRelativeDate_iff.mp ho
  have hsupported : (Condition.nullary "at" .time o).isSupported = true :=
    Condition.isSupported_relativeDay (c := .nullary "at" .time o) rfl hf
  rw [Condition.evaluate_eq_panic_iff]
  exact ⟨fun hpanics => hpanics.outside, fun h => ⟨hsupported, ho, ⟨t, rfl⟩, h⟩⟩

/-- **Readings of one instant that answer all conditions on relative days alike show one day.** -/
theorem day_eq_of_evaluate {m m' : Moment} (hnow : m.now = m'.now)
    (h : ∀ c : Condition, c.valueType = .time → c.operator.isRelativeDate = true → ∀ r,
      c.evaluate m r = c.evaluate m' r) : m.day = m'.day := by
  obtain ⟨hlow, hhigh⟩ := m.day_bounds
  -- A field with the instant itself is dated on a day that one of the operators names.
  obtain ⟨o, days, ho, hdays⟩ :=
    exists_dayOffset (m.now.date.dayNumber - m.day) (by omega) (by omega)
  have hrelative : o.isRelativeDate = true := Option.isSome_iff_exists.mpr ⟨_, ho⟩
  have hsame := h (.nullary "at" .time o) rfl hrelative (.plain [("at", .time m.now)])
  have hpanic := evaluate_eq_panic_iff hrelative m m.now
  rw [hsame, evaluate_eq_panic_iff hrelative] at hpanic
  by_cases hinside : m.now.InCalendar m.zone
  · have hinside' : m'.now.InCalendar m'.zone := by tauto
    have hanswer : ∀ {m'' : Moment}, m''.now.InCalendar m''.zone →
        Condition.evaluate m'' (.nullary "at" .time o) (.plain [("at", .time m.now)]) =
          .ok (onDay m'' days (.time m.now)) := fun hinside'' =>
      Condition.evaluate_onDay (c := .nullary "at" .time o) rfl (Operator.family_of_dayOffset? ho)
        hinside'' rfl rfl
    rw [hanswer hinside, hanswer hinside', Except.ok.injEq,
      (onDay_time_iff hinside m.now _).mpr hdays.symm] at hsame
    have hday := (onDay_time_iff hinside' m.now _).mp hsame.symm
    omega
  · exact day_eq_of_outside hnow hinside (by tauto)

end Moment

/-! ### Zones that engines are given -/

theorem Offset.wholeMinutes_mod (z : Offset) : z.wholeMinutes.seconds % 60 = 0 := by
  simp only [wholeMinutes]
  split <;> omega

theorem Offset.wholeMinutes_eq_self_iff {z : Offset} :
    z.wholeMinutes = z ↔ z.seconds % 60 = 0 := by
  constructor
  · intro h
    rw [← h]
    exact z.wholeMinutes_mod
  · exact wholeMinutes_of_mod

theorem EngineError.mapError_evaluation_inj {x y : Except EvaluationError Bool}
    (h : x.mapError EngineError.evaluation = y.mapError EngineError.evaluation) : x = y := by
  cases x with
  | error e =>
    cases y with
    | error e' => simpa [Except.mapError] using h
    | ok b => exact nomatch h
  | ok a =>
    cases y with
    | error e => exact nomatch h
    | ok b => simpa [Except.mapError] using h

namespace Blueprint

theorem build_of_zoneText (z : Offset) (before : List Step) {after : List Step}
    (hafter : ∀ t ∈ after, t.zoneText? = none) :
    ∃ e, (assemble (before ++ .timeZone z :: after)).build = .ok e ∧ e.zone = z.wholeMinutes := by
  have hlast : lastSet Step.zoneText? (before ++ .timeZone z :: after) =
      some (String.ofList z.text) :=
    lastSet_eq_some_iff.mpr ⟨before, .timeZone z, after, rfl, rfl, hafter⟩
  have hread : Offset.read? (assemble (before ++ .timeZone z :: after)).settings.timeZone.toList =
      some z.wholeMinutes := by
    rw [timeZone_assemble, hlast, Option.getD_some, String.toList_ofList, Offset.read?_text]
  exact ⟨_, build_eq_ok_iff.mpr ⟨_, hread, rfl⟩, rfl⟩

/-- **An engine works in the whole minutes of the zone that it is given**, if no later step sets
    another zone: it is built, and its zone is the one given exactly if that is whole minutes.  It
    evaluates as memory does in the whole minutes.  Where they show the same day as the zone given,
    it evaluates as in that; and only there does it so for all conditions on relative days. -/
theorem build_zone_eq_wholeMinutes (z : Offset) (before : List Step) {after : List Step}
    (hafter : ∀ t ∈ after, t.zoneText? = none) :
    ∃ e, (assemble (before ++ .timeZone z :: after)).build = .ok e ∧
      e.zone = z.wholeMinutes ∧ (e.zone = z ↔ z.seconds % 60 = 0) ∧
      ∀ current,
        (∀ cs, e.evaluate current cs =
          (evaluateAll ⟨e.clock.read current, z.wholeMinutes⟩ cs).mapError .evaluation) ∧
        (Moment.day ⟨e.clock.read current, z.wholeMinutes⟩ =
            Moment.day ⟨e.clock.read current, z⟩ →
          ∀ cs, e.evaluate current cs =
            (evaluateAll ⟨e.clock.read current, z⟩ cs).mapError .evaluation) ∧
        ((∀ c : Condition, c.valueType = .time → c.operator.isRelativeDate = true → ∀ r,
            e.evaluateRecord current r [c] =
              (c.evaluate ⟨e.clock.read current, z⟩ r).mapError .evaluation) →
          Moment.day ⟨e.clock.read current, z.wholeMinutes⟩ =
            Moment.day ⟨e.clock.read current, z⟩) := by
  obtain ⟨e, hbuild, hzone⟩ := build_of_zoneText z before hafter
  have hmoment : ∀ current, e.moment current = ⟨e.clock.read current, z.wholeMinutes⟩ := by
    intro current
    rw [Engine.moment, hzone]
  refine ⟨e, hbuild, hzone, ?_, ?_⟩
  · rw [hzone]
    exact Offset.wholeMinutes_eq_self_iff
  · intro current
    refine ⟨?_, ?_, ?_⟩
    · intro cs
      rw [Engine.evaluate, hmoment]
    · intro hday cs
      rw [Engine.evaluate, hmoment, evaluateAll_congr_day hday]
    · intro hagree
      have hanswers : ∀ c : Condition, c.valueType = .time → c.operator.isRelativeDate = true →
          ∀ r, c.evaluate ⟨e.clock.read current, z.wholeMinutes⟩ r =
            c.evaluate ⟨e.clock.read current, z⟩ r := by
        intro c htype hop r
        have hanswer := hagree c htype hop r
        rw [Engine.evaluateRecord_singleton, hmoment] at hanswer
        exact EngineError.mapError_evaluation_inj hanswer
      exact Moment.day_eq_of_evaluate rfl hanswers

/-- A zone of five hours and a half and fifteen seconds west, at an instant at which they lie
    within one day. -/
theorem build_zone_eq_wholeMinutes_west :
    ∃ e, (assemble [.settings { timeZone := "Mars" }, .timeZone ⟨-19815, by decide⟩,
        .dialect .sqlite]).build = .ok e ∧ e.zone = ⟨-19800, by decide⟩ ∧
      e.evaluate ⟨⟨1970, 1, 1, by decide⟩, ⟨5, 29, 59, 0, by decide⟩⟩
          [(.nullary "at" .time .today, .plain [("at", .text "1969-12-31")])] =
        (evaluateAll ⟨e.clock.read ⟨⟨1970, 1, 1, by decide⟩, ⟨5, 29, 59, 0, by decide⟩⟩,
            ⟨-19815, by decide⟩⟩
          [(.nullary "at" .time .today, .plain [("at", .text "1969-12-31")])]).mapError
            .evaluation := by
  have hafter : ∀ t ∈ [Step.dialect .sqlite], t.zoneText? = none := by
    simp [Step.zoneText?]
  obtain ⟨e, hbuild, hzone, -, hevaluate⟩ := build_zone_eq_wholeMinutes ⟨-19815, by decide⟩
    [.settings { timeZone := "Mars" }] hafter
  obtain ⟨-, hday, -⟩ := hevaluate ⟨⟨1970, 1, 1, by decide⟩, ⟨5, 29, 59, 0, by decide⟩⟩
  have hclock : e.clock = .running := by
    obtain ⟨z, -, rfl⟩ := build_eq_ok_iff.mp hbuild
    rfl
  refine ⟨e, hbuild, hzone.trans (by decide), hday ?_ _⟩
  rw [hclock]
  decide

/-- **Not every zone is kept.**  With 59 seconds east of universal time, half a minute before
    midnight, the next day has begun; the engine that is given this zone is still in the day
    before. -/
theorem build_zone_ne_of_odd_seconds :
    ∃ e, (assemble [.timeZone ⟨59, by decide⟩, .clock (.frozen
        ⟨⟨2024, 6, 15, by decide⟩, ⟨23, 59, 30, 0, by decide⟩⟩)]).build = .ok e ∧
      e.zone ≠ ⟨59, by decide⟩ ∧
      ∀ current,
        e.evaluateRecord current (.plain [("at",
            .time ⟨⟨2024, 6, 16, by decide⟩, ⟨0, 0, 0, 0, by decide⟩⟩)])
          [.nullary "at" .time .today] = .ok false ∧
        Criteria.evaluateRecord ⟨e.clock.read current, ⟨59, by decide⟩⟩ (.plain [("at",
            .time ⟨⟨2024, 6, 16, by decide⟩, ⟨0, 0, 0, 0, by decide⟩⟩)])
          [.nullary "at" .time .today] = .ok true := by
  have hbuild : (assemble [.timeZone ⟨59, by decide⟩, .clock (.frozen
      ⟨⟨2024, 6, 15, by decide⟩, ⟨23, 59, 30, 0, by decide⟩⟩)]).build =
      .ok { settings := { timeZone := "+00:00" }, zone := .utc,
            clock := .frozen ⟨⟨2024, 6, 15, by decide⟩, ⟨23, 59, 30, 0, by decide⟩⟩,
            renderer := { zone := .utc } } := by decide +kernel
  have hsame : Criteria.evaluateRecord
      ⟨⟨⟨2024, 6, 15, by decide⟩, ⟨23, 59, 30, 0, by decide⟩⟩, .utc⟩ (.plain [("at",
        .time ⟨⟨2024, 6, 16, by decide⟩, ⟨0, 0, 0, 0, by decide⟩⟩)])
      [.nullary "at" .time .today] = .ok false := by decide +kernel
  have hnext : Criteria.evaluateRecord
      ⟨⟨⟨2024, 6, 15, by decide⟩, ⟨23, 59, 30, 0, by decide⟩⟩, ⟨59, by decide⟩⟩ (.plain [("at",
        .time ⟨⟨2024, 6, 16, by decide⟩, ⟨0, 0, 0, 0, by decide⟩⟩)])
      [.nullary "at" .time .today] = .ok true := by decide +kernel
  refine ⟨_, hbuild, by decide, ?_⟩
  intro current
  exact ⟨congrArg (Except.mapError EngineError.evaluation) hsame, hnext⟩

end Blueprint

end Criteria
