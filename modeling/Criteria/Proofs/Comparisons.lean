/-
  Criteria/Proofs/Comparisons.lean
  ================================
  **Ordering and equality in memory are one total order.**  A number or a date-time
  is tested for equality in one way and for order in another.  Both tests meet
  nothing but native values, finite numbers or date-times on both sides: whatever
  else a field or an operand holds is refused when it is read.  Native values have
  places on a line of integers, and both tests are tests of the places
  (`holds_of_isNative`).  So a field comes before its operand, ties with it or comes
  after it, and that settles all six comparisons.

  A null has no place; nothing but the denial of equality holds of it.
-/
import Criteria.Proofs.Calendar.Chronology
import Criteria.Proofs.Condition.Denial

namespace Criteria

/-! ### Places of values -/

/-- The types whose values are compared by their places. -/
def ValueType.IsLinear (t : ValueType) : Prop := t = .numeric ∨ t = .time

theorem Operator.Compares.supports_eq {o : Operator} (h : o.Compares) {t : ValueType}
    (ht : t.IsLinear) : o.supports t = true := by
  rcases h with hf | hf <;> rcases ht with rfl | rfl <;>
    simp [supports, valueTypes, hf, ValueType.all]

/-- The place of a number or a date-time on the line of its kind; no other value is asked for
    one. -/
def Value.place : Value → Int
  | .number x => x.place.getD 0
  | .time t => t.place
  | _ => 0

theorem ValueType.finite_of_isNative {w : Value} (hw : numeric.isNative w = true) :
    ∃ negative rank, w = .number (.finite negative rank) := by
  cases w with
  | number x =>
    cases x with
    | finite negative rank => exact ⟨negative, rank, rfl⟩
    | nan | infinite negative => exact nomatch hw
  | null | text s | time d => exact nomatch hw

theorem ValueType.time_of_isNative {w : Value} (hw : time.isNative w = true) :
    ∃ d, w = .time d := by
  cases w with
  | time d => exact ⟨d, rfl⟩
  | null | number x | text s => exact nomatch hw

section

variable {t : ValueType} (ht : t.IsLinear) {w u : Value}

include ht

/-- Native values of one such type are two finite numbers or two date-times. -/
theorem ValueType.isNative_cases (hw : t.isNative w = true) (hu : t.isNative u = true) :
    (∃ negative negative' rank rank', w = .number (.finite negative rank) ∧
      u = .number (.finite negative' rank')) ∨ ∃ d d', w = .time d ∧ u = .time d' := by
  rcases ht with rfl | rfl
  · obtain ⟨negative, rank, rfl⟩ := finite_of_isNative hw
    obtain ⟨negative', rank', rfl⟩ := finite_of_isNative hu
    exact .inl ⟨negative, negative', rank, rank', rfl, rfl⟩
  · obtain ⟨d, rfl⟩ := time_of_isNative hw
    obtain ⟨d', rfl⟩ := time_of_isNative hu
    exact .inr ⟨d, d', rfl, rfl⟩

/-- **Native values are in the order of their places.** -/
theorem Value.order?_of_isNative (hw : t.isNative w = true) (hu : t.isNative u = true) :
    w.order? u = some (compare w.place u.place) := by
  rcases ValueType.isNative_cases ht hw hu with ⟨_, _, _, _, rfl, rfl⟩ | ⟨d, d', rfl, rfl⟩
  · rfl
  · exact congrArg some (DateTime.order_eq_compare d d')

/-- **Native values are equal in the same place.** -/
theorem Value.same_of_isNative (hw : t.isNative w = true) (hu : t.isNative u = true) :
    w.same u = (compare w.place u.place == .eq) := by
  rcases ValueType.isNative_cases ht hw hu with ⟨_, _, _, _, rfl, rfl⟩ | ⟨d, d', rfl, rfl⟩
  · rfl
  · have hequal : d = d' ↔ compare d.place d'.place = .eq := by
      rw [← DateTime.order_eq_compare, DateTime.order_eq_iff]
    rw [Bool.eq_iff_iff, beq_iff_eq]
    simpa only [Value.same, Value.place, beq_iff_eq] using hequal

/-- **A comparison of native values is one of their places**, for equality and for order alike. -/
theorem Condition.holds_of_isNative {n : Condition} (hop : n.operator.Compares)
    (hoperand : n.operand = some u) (hw : t.isNative w = true) (hu : t.isNative u = true)
    (m : Moment) : n.holds m w = n.operator.admits (compare w.place u.place) := by
  have hwnull : w.isNull = false := by
    cases w <;> first | rfl | exact absurd rfl (ValueType.ne_null_of_isNative hw)
  have hunull : u.isNull = false := by
    cases u <;> first | rfl | exact absurd rfl (ValueType.ne_null_of_isNative hu)
  rcases hop with hf | hf
  · rw [Operator.admits_of_equality hf, ← Value.same_of_isNative ht hw hu]
    simp only [holds, hf, hoperand, Option.getD_some, present, hwnull, hunull]
    rfl
  · rw [Operator.admits_of_ordering hf]
    simp only [holds, hf, hoperand, Option.getD_some, Value.order?_of_isNative ht hw hu,
      Option.map_some]

end

/-! ### One order -/

/-- The answers to the comparisons of a field with its operand, where the field comes before it,
    ties with it or comes after it. -/
structure InOneOrder (answer : Operator → Except EvaluationError Bool) (before tie after : Bool) :
    Prop where
  exactlyOne : [before, tie, after].count true = 1
  lessThan : answer .lessThan = .ok before
  is : answer .is = .ok tie
  greaterThan : answer .greaterThan = .ok after
  lessThanEq : answer .lessThanEq = .ok (before || tie)
  greaterThanEq : answer .greaterThanEq = .ok (after || tie)
  not : answer .not = .ok (before || after)

/-- Comparisons that all ask for the order of the same two places are answered in one order. -/
theorem InOneOrder.of_places {answer : Operator → Except EvaluationError Bool} {p q : Int}
    (h : ∀ o : Operator, o.Compares → answer o = .ok (o.admits (compare p q))) :
    InOneOrder answer (p < q) (p = q) (q < p) := by
  have hbefore : decide (p < q) = (compare p q == .lt) := by
    rw [beq_eq_decide]
    exact decide_eq_decide.mpr compare_lt_iff_lt.symm
  have htie : decide (p = q) = (compare p q == .eq) := by
    rw [beq_eq_decide]
    exact decide_eq_decide.mpr compare_eq_iff_eq.symm
  have hafter : decide (q < p) = (compare p q == .gt) := by
    rw [beq_eq_decide]
    exact decide_eq_decide.mpr compare_gt_iff_gt.symm
  rw [hbefore, htie, hafter]
  generalize compare p q = r at h
  exact {
    exactlyOne := by cases r <;> rfl
    lessThan := h .lessThan (by decide)
    is := h .is (by decide)
    greaterThan := h .greaterThan (by decide)
    lessThanEq := by
      rw [h .lessThanEq (by decide)]
      cases r <;> rfl
    greaterThanEq := by
      rw [h .greaterThanEq (by decide)]
      cases r <;> rfl
    not := by
      rw [h .not (by decide)]
      cases r <;> rfl }

namespace Condition

variable {m : Moment} {c n : Condition} {r : Record} {v w : Value}

/-- **A comparison has an answer only where it meets native values**, or a null field. -/
theorem native_of_evaluate (hop : c.operator.Compares) {b : Bool} (hb : c.evaluate m r = .ok b) :
    ∃ v w n u, r.field? c.identifier = some v ∧ c.valueType.coerce v = .ok w ∧
      c.normalized = .ok n ∧ n.operand = some u ∧ n.holds m w = b ∧
      (w = .null ∨ c.valueType.isNative w = true) ∧ c.valueType.isNative u = true := by
  obtain ⟨_, v, w, n, hv, hw, hn, -, hholds⟩ := evaluate_eq_ok_iff.mp hb
  obtain ⟨u, hoperand, hu⟩ := isNative_of_normalized hn (by simp [hop.arity_eq])
  refine ⟨v, w, n, u, hv, hw, hn, hoperand, hholds, ?_, hu⟩
  rcases ValueType.coerce_cases hw with ⟨_, hnull⟩ | ⟨_, hnative⟩
  · exact .inl hnull
  · exact .inr hnative

/-- A text that writes no finite number is refused, on either side of a comparison. -/
example : ["NaN", "1e400", "-inf"].all (fun s =>
    (ValueType.numeric.coerce (.text s)).toOption.isNone) = true := by
  decide +kernel

theorem evaluate_comparison (m : Moment) {o : Operator} (htype : c.valueType.IsLinear)
    (hop : o.Compares) (hv : r.field? c.identifier = some v) (hw : c.valueType.coerce v = .ok w)
    (hn : (c.withOperator .is).normalized = .ok n) :
    (c.withOperator o).evaluate m r = .ok ((n.withOperator o).holds m w) := by
  have harity : (c.withOperator o).operator.arity ≠ .nullary := by simp [hop.arity_eq]
  exact evaluate_eq_holds m (hop.supports_eq htype) hv hw
    (normalized_withOperator (c := c.withOperator .is) hop.arity_eq hn) (panics_of_arity harity m w)

/-- Of a null field a comparison holds only if it denies equality. -/
theorem evaluate_comparison_null (m : Moment) {o : Operator} (htype : c.valueType.IsLinear)
    (hop : o.Compares) (hv : r.field? c.identifier = some .null)
    (hn : (c.withOperator .is).normalized = .ok n) :
    (c.withOperator o).evaluate m r = .ok o.isNegated := by
  rw [evaluate_comparison m htype hop hv (ValueType.coerce_null _) hn, holds_of_null,
    withOperator_operator, hop.isNullCheck_eq, Bool.false_bne]

/-- **Ordering and equality in memory are one total order.**  Whatever is compared is native, or a
    null field.  A field that is not null is before its operand, ties with it or is after it, and
    all six comparisons go by that; a null field passes no comparison but the denial of equality. -/
theorem comparisons_in_one_order (m : Moment) {c : Condition} {r : Record}
    (htype : c.valueType.IsLinear) :
    (∀ o b, o.Compares → (c.withOperator o).evaluate m r = .ok b →
      ∃ v w n u, r.field? c.identifier = some v ∧ c.valueType.coerce v = .ok w ∧
        (c.withOperator o).normalized = .ok n ∧ n.operand = some u ∧ n.holds m w = b ∧
        (w = .null ∨ c.valueType.isNative w = true) ∧ c.valueType.isNative u = true) ∧
    ∀ v w n, r.field? c.identifier = some v → c.valueType.coerce v = .ok w →
      (c.withOperator .is).normalized = .ok n → ∃ u, n.operand = some u ∧
        (v = .null → ∀ o ∈ [Operator.lessThan, .lessThanEq, .greaterThan, .greaterThanEq, .is],
          (c.withOperator o).evaluate m r = .ok false) ∧
        (v ≠ .null → InOneOrder (fun o => (c.withOperator o).evaluate m r)
          (w.place < u.place) (w.place = u.place) (u.place < w.place)) := by
  refine ⟨fun o b hop hb => native_of_evaluate (c := c.withOperator o) hop hb, ?_⟩
  intro v w n hv hw hn
  obtain ⟨u, hoperand, hu⟩ := isNative_of_normalized hn (nomatch ·)
  refine ⟨u, hoperand, fun hnull o ho => ?_, fun hnull => InOneOrder.of_places fun o hop => ?_⟩
  · subst hnull
    simp only [List.mem_cons, List.not_mem_nil, or_false] at ho
    rcases ho with rfl | rfl | rfl | rfl | rfl <;>
      exact evaluate_comparison_null m htype (by decide) hv hn
  · rcases ValueType.coerce_cases hw with ⟨hvnull, _⟩ | ⟨_, hnative⟩
    · exact absurd hvnull hnull
    · rw [evaluate_comparison m htype hop hv hw hn,
        holds_of_isNative htype (n := n.withOperator o) hop hoperand hnative hu]
      rfl

/-- The two zeros tie, however they are written. -/
theorem comparisons_in_one_order_zeros :
    InOneOrder
      (fun o => Condition.evaluate ⟨⟨⟨1970, 1, 1, by decide⟩, .midnight⟩, .utc⟩
        { identifier := "price", valueType := .numeric, operator := o,
          operand := some (.text "-0") } (.plain [("price", .text " 0.00 ")]))
      false true false := by
  let zero (negative : Bool) : Value := .number (.finite negative ⟨0, by decide⟩)
  let c : Condition :=
    { identifier := "price", valueType := .numeric, operator := .is, operand := some (.text "-0") }
  have hn : c.normalized = .ok { c with operand := some (zero true) } := by decide +kernel
  have hw : c.valueType.coerce (.text " 0.00 ") = .ok (zero false) := by decide +kernel
  obtain ⟨u, hu, _, horder⟩ :=
    (comparisons_in_one_order ⟨⟨⟨1970, 1, 1, by decide⟩, .midnight⟩, .utc⟩
      (c := c) (r := .plain [("price", .text " 0.00 ")]) (.inl rfl)).2 _ _ _ rfl hw hn
  obtain rfl := Option.some.inj hu
  exact horder (by decide)

end Condition

end Criteria
