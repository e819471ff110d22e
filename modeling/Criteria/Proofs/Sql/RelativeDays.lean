/-
  Criteria/Proofs/Sql/RelativeDays.lean
  =====================================
  **How far relative days mean the same in SQLite as in memory.**  Memory counts
  days from the date that a wall clock in the engine's zone shows.  A relational
  clause names no zone: it leaves the current day to the store, and SQLite's is the
  date of universal time.  Both shift their date by the same number of days and
  compare it with the date that is written in the field, so they part exactly when
  the two clocks show different dates, and then on the fields with either date.
-/
import Criteria.Proofs.Calendar.Written
import Criteria.Proofs.Engine.Assembly
import Criteria.Proofs.Sql.NullColumn
import Criteria.Proofs.Sql.Rendered

namespace Criteria

theorem DateTime.localDay_utc (now : DateTime) : now.localDay .utc = now.date.dayNumber := by
  rw [← dayAt_instantIn_utc, dayAt_instantIn]

namespace Sql

/-! ### The day of a column -/

/-- **The interval of a clause is read as the days that it was made for.** -/
theorem readDays_signedDigits (days : Int) :
    readDays (Text.signedDigits days ++ " day".toList) = some days := by
  have hblank : ∀ c ∈ Text.signedDigits days, (c != ' ') = true := by
    intro c hc
    exact bne_iff_ne.mpr (Text.ne_of_mem_signedDigits hc ' ' (by decide))
  have hnumber : (Text.signedDigits days ++ " day".toList).takeWhile (· != ' ') =
      Text.signedDigits days := by
    rw [List.takeWhile_append_of_pos hblank]
    simp
  simp only [readDays, hnumber, List.drop_left, if_true, Text.readInt_signedDigits]

/-- A column that holds a field as it is written, if it holds a date-time at all, in a store that
    reads the date in it.  The clock of the store shows universal time. -/
structure Row.HoldsTime (row : Row) (now : DateTime) (w : Value) : Prop where
  value : row.value = w.asTime?.map DateTime.text
  dayOf : ∀ t, w = .time t → row.dayOf t.text = some t.date.dayNumber
  today : row.today = now.date.dayNumber

/-- A column with a field, in a store that reads date-times as they are read here. -/
def Row.ofTime (now : DateTime) (w : Value) : Row where
  value := w.asTime?.map DateTime.text
  order := byCodePoint
  today := now.date.dayNumber
  dayOf cs := (Calendar.readDateTime cs).map fun t => t.date.dayNumber

theorem Row.holdsTime_ofTime (now : DateTime) (w : Value) : (ofTime now w).HoldsTime now w := by
  constructor
  · rfl
  · intro t ht
    have hread := Calendar.readDateTime_textWith t (.inl rfl)
    simp only [ofTime, DateTime.text, hread, Option.map_some, DateTime.date_shown]
  · rfl

theorem text_ne_now (t : DateTime) : t.text ≠ "now".toList := by
  intro h
  have hread := Calendar.readDateTime_textWith t (.inl rfl)
  have hnow : Calendar.readDateTime "now".toList = none := by decide +kernel
  rw [← DateTime.text, h, hnow] at hread
  exact nomatch hread

section

variable {row : Row} {now : DateTime} {w : Value} (hrow : row.HoldsTime now w) (days : Int)

include hrow

/-- The current day of the store, shifted. -/
theorem eval_shiftedNow :
    (if days = 0 then Expr.apply .day (.literal "now".toList)
      else .apply₂ .day (.literal "now".toList)
        (.literal (Text.signedDigits days ++ " day".toList))).eval .sqlite row =
      .day (now.date.dayNumber + days) := by
  have htoday : Function.day.apply .sqlite row (.text "now".toList) = .day now.date.dayNumber := by
    simp only [Function.apply, and_self, if_true, hrow.today]
  by_cases h : days = 0
  · rw [if_pos h, h, Int.add_zero]
    exact htoday
  · rw [if_neg h]
    simp only [Expr.eval, Function.apply₂, htoday, readDays_signedDigits]

/-- **The clause of a relative day is true of the fields with that date of universal time.** -/
theorem truth_dayExpr_iff :
    (dayExpr .sqlite days).truth .sqlite row = some true ↔
      ∃ t, w = .time t ∧ t.date.dayNumber = now.date.dayNumber + days := by
  have hnow := eval_shiftedNow hrow days
  cases w with
  | time t =>
    have hvalue : row.value = some t.text := hrow.value
    have hday : (Expr.apply .day .column).eval .sqlite row = .day t.date.dayNumber := by
      simp only [Expr.eval, hvalue, Function.apply, text_ne_now, and_false, if_false,
        hrow.dayOf t rfl]
    have hcompare : (dayExpr .sqlite days).truth .sqlite row =
        some (compare t.date.dayNumber (now.date.dayNumber + days) == .eq) := by
      rw [dayExpr, Expr.truth, Expr.eval, hday, hnow]
      rfl
    rw [hcompare]
    simp
  | null | number x | text s =>
    have hunknown := truth_atom_of_null hrow.value .sqlite (a := .onDay days) (by simp)
    rw [Atom.expr] at hunknown
    rw [hunknown]
    simp

end

theorem rendered_relativeDay {c : Condition} {days : Int64} (htype : c.valueType = .time)
    (hf : c.operator.family = .relativeDay days) (d : Dialect) :
    ∃ text, Rendered d c text (dayExpr d days.toInt) := by
  have hclause : clauseOf? (.nullary c.identifier c.valueType c.operator) =
      some ⟨c.identifier, .or, [.onDay days.toInt]⟩ := by
    simp only [clauseOf?, Condition.nullary, hf]
  exact ⟨_, rendered_of_clauseOf? (Condition.isSupported_relativeDay htype hf)
    (Condition.normalized_relativeDay hf) hclause rfl⟩

end Sql

/-! ### Agreement -/

namespace Engine

open Sql

/-- **Relative days agree with memory where the clocks show one date.**  At an instant that has a
    date in the engine's zone, memory says yes to the fields dated on the day of that zone, shifted,
    and the rendered text is true of those dated on the day of universal time, shifted.  So the two
    agree on a field exactly if the two days are one, or the field is dated on neither of the
    shifted days. -/
theorem sqliteDay_selects_iff_evaluate {b : Blueprint} {e : Engine} (hbuild : b.build = .ok e)
    (hdialect : e.settings.dialect = .sqlite) {c : Condition} {days : Int64}
    (htype : c.valueType = .time) (hop : c.operator.dayOffset? = some days) :
    ∃ text x, (e.renderFor .relational [c]).get? 1 = some (.sql text) ∧
      Rendered .sqlite c text x ∧
      ∀ (current now : DateTime) (r : Record) (v w : Value) (row : Row),
        e.clock.read current = now → now.InCalendar e.zone → r.field? c.identifier = some v →
        c.valueType.coerce v = .ok w → row.HoldsTime now w →
        (e.evaluateRecord current r [c] = .ok true ↔
          ∃ t, w = .time t ∧ t.date.dayNumber = now.localDay e.zone + days.toInt) ∧
        (x.truth .sqlite row = some true ↔
          ∃ t, w = .time t ∧ t.date.dayNumber = now.date.dayNumber + days.toInt) ∧
        (e.zone = .utc →
          (e.evaluateRecord current r [c] = .ok true ↔ x.truth .sqlite row = some true)) ∧
        ((e.evaluateRecord current r [c] = .ok true ↔ x.truth .sqlite row = some true) ↔
          now.localDay e.zone = now.date.dayNumber ∨
            ∀ t, w = .time t → t.date.dayNumber ≠ now.localDay e.zone + days.toInt ∧
              t.date.dayNumber ≠ now.date.dayNumber + days.toInt) := by
  have hf := Operator.family_of_dayOffset? hop
  obtain ⟨text, hrendered⟩ := rendered_relativeDay htype hf .sqlite
  refine ⟨text, dayExpr .sqlite days.toInt, ?_, hrendered, ?_⟩
  · rw [(Blueprint.worksIn_of_build hbuild).clauses, hdialect]
    exact congrArg some hrendered.rendered
  · intro current now r v w row hnow hinside hv hw hrow
    have hmoment : (e.moment current).now.InCalendar (e.moment current).zone := by
      rw [moment, hnow]
      exact hinside
    have hmemory : e.evaluateRecord current r [c] = .ok true ↔
        ∃ t, w = .time t ∧ t.date.dayNumber = now.localDay e.zone + days.toInt := by
      have hday : onDay (e.moment current) days w = true ↔ ∃ t, w = .time t ∧ t.date.dayNumber =
          (e.moment current).now.localDay (e.moment current).zone + days.toInt :=
        onDay_eq_true_iff hmoment
      rw [moment, hnow] at hday
      rw [evaluateRecord_singleton, Condition.evaluate_onDay htype hf hmoment hv hw, moment, hnow,
        ← hday]
      simp [Except.mapError]
    have htruth := truth_dayExpr_iff hrow days.toInt
    have hagree : (e.evaluateRecord current r [c] = .ok true ↔
        (dayExpr .sqlite days.toInt).truth .sqlite row = some true) ↔
          now.localDay e.zone = now.date.dayNumber ∨
            ∀ t, w = .time t → t.date.dayNumber ≠ now.localDay e.zone + days.toInt ∧
              t.date.dayNumber ≠ now.date.dayNumber + days.toInt := by
      rw [hmemory, htruth]
      cases w with
      | time t =>
        simp only [Value.time.injEq, exists_eq_left', forall_eq']
        omega
      | null | number x | text s => simp
    refine ⟨hmemory, htruth, ?_, hagree⟩
    intro hutc
    apply hagree.mpr
    rw [hutc, DateTime.localDay_utc]
    exact .inl rfl

/-- The last second of a day on the wall clock of the zone, which is the same day in universal
    time. -/
theorem sqliteDay_selects_iff_evaluate_last :
    ∃ e text x, Blueprint.build { settings := { dialect := .sqlite, timeZone := "+08:00" } } =
        .ok e ∧
      (e.renderFor .relational [.nullary "at" .time .today]).get? 1 = some (.sql text) ∧
      Rendered .sqlite (.nullary "at" .time .today) text x ∧
      (e.evaluateRecord ⟨⟨2024, 6, 15, by decide⟩, ⟨15, 59, 59, 0, by decide⟩⟩
          (.plain [("at", .text "2024-06-15")]) [.nullary "at" .time .today] = .ok true ↔
        x.truth .sqlite (.ofTime ⟨⟨2024, 6, 15, by decide⟩, ⟨15, 59, 59, 0, by decide⟩⟩
          (.time ⟨⟨2024, 6, 15, by decide⟩, .midnight⟩)) = some true) := by
  have hbuild : Blueprint.build { settings := { dialect := .sqlite, timeZone := "+08:00" } } =
      .ok { settings := { dialect := .sqlite, timeZone := "+08:00" }, zone := ⟨28800, by decide⟩,
            clock := .running,
            renderer := { dialect := .sqlite, zone := ⟨28800, by decide⟩ } } := rfl
  have hcoerce : ValueType.coerce .time (.text "2024-06-15") =
      .ok (.time ⟨⟨2024, 6, 15, by decide⟩, .midnight⟩) := by decide +kernel
  obtain ⟨text, x, htext, hrendered, hfields⟩ := sqliteDay_selects_iff_evaluate hbuild rfl
    (c := .nullary "at" .time .today) rfl rfl
  obtain ⟨-, -, -, hagree⟩ := hfields _ ⟨⟨2024, 6, 15, by decide⟩, ⟨15, 59, 59, 0, by decide⟩⟩
    (.plain [("at", .text "2024-06-15")]) _ _ _ rfl (by decide) rfl hcoerce
    (Row.holdsTime_ofTime _ _)
  exact ⟨_, text, x, hbuild, htext, hrendered, hagree.mpr (.inl (by decide))⟩

/-- **Not at every instant.**  One second later a new day has begun on the wall clock of the zone,
    and memory says yes to the first moment of it.  The rendered text is not true of it. -/
theorem sqliteDay_lags_behind_zone :
    ∃ e text x, Blueprint.build { settings := { dialect := .sqlite, timeZone := "+08:00" } } =
        .ok e ∧
      (e.renderFor .relational [.nullary "at" .time .today]).get? 1 = some (.sql text) ∧
      expression? .sqlite "at".toList text.toList = some x ∧
      Row.HoldsTime (.ofTime ⟨⟨2024, 6, 15, by decide⟩, ⟨16, 0, 0, 0, by decide⟩⟩
          (.time ⟨⟨2024, 6, 16, by decide⟩, .midnight⟩))
        ⟨⟨2024, 6, 15, by decide⟩, ⟨16, 0, 0, 0, by decide⟩⟩
        (.time ⟨⟨2024, 6, 16, by decide⟩, .midnight⟩) ∧
      ¬ (e.evaluateRecord ⟨⟨2024, 6, 15, by decide⟩, ⟨16, 0, 0, 0, by decide⟩⟩
          (.plain [("at", .time ⟨⟨2024, 6, 16, by decide⟩, .midnight⟩)])
          [.nullary "at" .time .today] = .ok true ↔
        x.truth .sqlite (.ofTime ⟨⟨2024, 6, 15, by decide⟩, ⟨16, 0, 0, 0, by decide⟩⟩
          (.time ⟨⟨2024, 6, 16, by decide⟩, .midnight⟩)) = some true) := by
  have hbuild : Blueprint.build { settings := { dialect := .sqlite, timeZone := "+08:00" } } =
      .ok { settings := { dialect := .sqlite, timeZone := "+08:00" }, zone := ⟨28800, by decide⟩,
            clock := .running,
            renderer := { dialect := .sqlite, zone := ⟨28800, by decide⟩ } } := rfl
  have htruth : (dayExpr .sqlite 0).truth .sqlite
      (.ofTime ⟨⟨2024, 6, 15, by decide⟩, ⟨16, 0, 0, 0, by decide⟩⟩
        (.time ⟨⟨2024, 6, 16, by decide⟩, .midnight⟩)) = some false := by decide +kernel
  have hmemory : Engine.evaluateRecord
      { settings := { dialect := .sqlite, timeZone := "+08:00" }, zone := ⟨28800, by decide⟩,
        clock := .running, renderer := { dialect := .sqlite, zone := ⟨28800, by decide⟩ } }
      ⟨⟨2024, 6, 15, by decide⟩, ⟨16, 0, 0, 0, by decide⟩⟩
      (.plain [("at", .time ⟨⟨2024, 6, 16, by decide⟩, .midnight⟩)])
      [.nullary "at" .time .today] = .ok true := by decide +kernel
  refine ⟨_, "(date(at) = date('now'))", dayExpr .sqlite 0, hbuild, rfl, by decide +kernel,
    Row.holdsTime_ofTime _ _, ?_⟩
  rw [hmemory, htruth]
  simp

end Engine

end Criteria
