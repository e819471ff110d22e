/-
  Criteria/Proofs/Sql/TimeTests.lean
  ==================================
  **A store that compares date-times as texts compares them in time.**  SQLite has
  no type for a date-time: a column holds its literal form, and a clause compares
  that with the literal form of the operand.  Both are texts of years with four
  digits, so their order is that of the date-times that they show
  (`byCodePoint_text`), and a comparison is rendered as the sign that admits the
  same orders as its operator.  Memory compares the date-times themselves, which
  are the ones shown unless a leap second is after another second than 59.
-/
import Criteria.Proofs.Comparisons
import Criteria.Proofs.Sql.Rendered
import Criteria.Proofs.Sql.TextOrder
import Criteria.Proofs.Sql.TextTests

namespace Criteria.Sql

theorem clauseOf?_comparison {n : Condition} {u : Value} (hop : n.operator.Compares)
    (hoperand : n.operand = some u) :
    clauseOf? n =
      some ⟨n.identifier, .or, [.compare (comparisonOf n.operator) u.literal.toList]⟩ := by
  rcases hop with hf | hf <;> simp only [clauseOf?, hf, hoperand, Option.map_some]

/-- **Comparisons of date-times select the same rows as they select records**, where a column holds
    the literal form and is compared as a text: this form tells the date-times of the years 0 to
    9999 apart that a clock shows, and has them in order of time.  Other date-times have the text of
    one that a clock shows, and are selected as that one. -/
theorem timeTest_selects_iff_evaluate (m : Moment) {c n : Condition} {r : Record} {raw : Value}
    {f v : DateTime} {row : Row} (htype : c.valueType = .time) (hop : c.operator.Compares)
    (hn : c.normalized = .ok n) (hoperand : n.operand = some (.time v))
    (hraw : r.field? c.identifier = some raw) (hfield : c.valueType.coerce raw = .ok (.time f))
    (hf : 0 ≤ f.date.year ∧ f.date.year ≤ 9999) (hv : 0 ≤ v.date.year ∧ v.date.year ≤ 9999)
    (hvalue : row.value = some (Value.time f).literal.toList) (horder : row.order = byCodePoint) :
    (f.text = v.text ↔ f.shown = v.shown) ∧
      byCodePoint f.text v.text = compare f.shown.place v.shown.place ∧
      ∃ text e, Rendered .sqlite c text e ∧
        (e.truth .sqlite row = some true ↔
          c.operator.admits (compare f.shown.place v.shown.place) = true) ∧
        (c.evaluate m r = .ok true ↔ c.operator.admits (compare f.place v.place) = true) ∧
        (f.time.IsShown → v.time.IsShown →
          (f.text = v.text ↔ f = v) ∧ byCodePoint f.text v.text = compare f.place v.place ∧
            (e.truth .sqlite row = some true ↔ c.evaluate m r = .ok true)) := by
  have htext := byCodePoint_text hf hv
  have hinj : f.text = v.text ↔ f.shown = v.shown := by
    rw [← byCodePoint_eq_iff, htext, DateTime.order_eq_iff]
  rw [DateTime.order_eq_compare] at htext
  have hnop := (Condition.normalized_keeps hn).2.2
  have hnop' : n.operator.Compares := by rw [hnop]; exact hop
  have hs : c.isSupported = true := hop.supports_eq (.inr htype)
  have hanswer : c.evaluate m r = .ok true ↔
      c.operator.admits (compare f.place v.place) = true := by
    have harity : c.operator.arity ≠ .nullary := by simp [hop.arity_eq]
    rw [Condition.evaluate_eq_holds m hs hraw hfield hn (Condition.panics_of_arity harity m _),
      ← hnop, Condition.holds_of_isNative (t := .time) (.inr rfl) hnop' hoperand rfl rfl m,
      Except.ok.injEq]
    rfl
  have htruth : ((Atom.compare (comparisonOf n.operator) (Value.time v).literal.toList).expr
      .sqlite).truth .sqlite row =
        some (c.operator.admits (compare f.shown.place v.shown.place)) := by
    rw [truth_compare .sqlite hvalue, horder, accepts_comparisonOf hnop', hnop]
    simp only [Value.literal, String.toList_ofList, htext]
  have hselects : ((Atom.compare (comparisonOf n.operator) (Value.time v).literal.toList).expr
      .sqlite).truth .sqlite row = some true ↔
        c.operator.admits (compare f.shown.place v.shown.place) = true := by
    rw [htruth, Option.some.injEq]
  refine ⟨hinj, htext, _, _,
    rendered_of_clauseOf? hs hn (clauseOf?_comparison hnop' hoperand) rfl, hselects, hanswer, ?_⟩
  intro hshown hshown'
  rw [f.shown_eq_self_iff.mpr hshown, v.shown_eq_self_iff.mpr hshown'] at hinj htext hselects
  exact ⟨hinj, htext, hselects.trans hanswer.symm⟩

/-- A leap second, and the same with one nanosecond more, which only a fraction tells apart. -/
theorem timeTest_selects_iff_evaluate_leap :
    let f : DateTime := ⟨⟨2016, 12, 31, by decide⟩, ⟨23, 59, 59, 1000000000, by decide⟩⟩
    let v : DateTime := ⟨⟨2016, 12, 31, by decide⟩, ⟨23, 59, 59, 1000000001, by decide⟩⟩
    let c : Condition :=
      { identifier := "at", valueType := .time, operator := .lessThan, operand := some (.time v) }
    ∃ text e, Rendered .sqlite c text e ∧
      (f.text = v.text ↔ f = v) ∧ byCodePoint f.text v.text = compare f.place v.place ∧
        (e.truth .sqlite ⟨some (Value.time f).literal.toList, byCodePoint, 0, fun _ => none⟩ =
            some true ↔
          c.evaluate ⟨⟨⟨1970, 1, 1, by decide⟩, .midnight⟩, .utc⟩ (.plain [("at", .time f)]) =
            .ok true) := by
  intro f v c
  have hvalue : Row.value ⟨some (Value.time f).literal.toList, byCodePoint, 0, fun _ => none⟩ =
      some (Value.time f).literal.toList := rfl
  obtain ⟨-, -, text, e, hrendered, -, -, hshown⟩ := timeTest_selects_iff_evaluate
    ⟨⟨⟨1970, 1, 1, by decide⟩, .midnight⟩, .utc⟩ (c := c) (n := c) (r := .plain [("at", .time f)])
    rfl (.inr rfl) rfl rfl rfl rfl (by decide) (by decide) hvalue rfl
  exact ⟨text, e, hrendered, hshown (by decide) (by decide)⟩

/-- **Not of every date-time.**  A leap second after second 4 and the fraction of second 5 that has
    its text: a store finds the one to be the other, and memory does not. -/
theorem timeTest_equates_unshown :
    let f : DateTime := ⟨⟨2016, 12, 31, by decide⟩, ⟨23, 56, 4, 1333333333, by decide⟩⟩
    let v : DateTime := ⟨⟨2016, 12, 31, by decide⟩, ⟨23, 56, 5, 333333333, by decide⟩⟩
    let c : Condition :=
      { identifier := "at", valueType := .time, operator := .is, operand := some (.time v) }
    f ≠ v ∧ f.text = v.text ∧
      ∃ x, c.toSql .sqlite = .sql "(at = '2016-12-31 23:56:05.333333333')" ∧
        expression? .sqlite "at".toList "(at = '2016-12-31 23:56:05.333333333')".toList = some x ∧
        x.truth .sqlite ⟨some (Value.time f).literal.toList, byCodePoint, 0, fun _ => none⟩ =
          some true ∧
        c.evaluate ⟨⟨⟨1970, 1, 1, by decide⟩, .midnight⟩, .utc⟩ (.plain [("at", .time f)]) =
          .ok false := by
  exact ⟨by decide, by decide,
    (Atom.compare .eq "2016-12-31 23:56:05.333333333".toList).expr .sqlite, rfl,
    by decide +kernel, by decide +kernel, by decide +kernel⟩

end Criteria.Sql
