/-
  Criteria/Proofs/Condition/Normal.lean
  =====================================
  **Normal forms.**  What the normal form of a condition keeps and what it puts
  in place of the operands.  `normalized_cases` says everything that `normalized`
  can do; whatever else is known about a normal form comes from it.  Under the
  textual types every value but null has a native form, its literal text.

  A value that is read as a type comes out native to it, and a native value is
  read as it is.  So a normal form is its own normal form.
-/
import Criteria.Condition
import Mathlib.Tactic.Common

namespace Criteria

namespace ValueType

/-- Under a textual type a value that is there becomes its literal text. -/
theorem coerce_of_isTextual {t : ValueType} (ht : t.isTextual = true) {v : Value}
    (hv : v ≠ .null) : t.coerce v = .ok (.text v.literal) := by
  have htype : t = .text ∨ t = .longText ∨ t = .commaSplit := by
    cases t <;> simp [isTextual] at ht ⊢
  cases v with
  | null => exact absurd rfl hv
  | number x => rcases htype with rfl | rfl | rfl <;> rfl
  | text s => rcases htype with rfl | rfl | rfl <;> rfl
  | time d => rcases htype with rfl | rfl | rfl <;> rfl

/-- A null stays null under every type. -/
theorem coerce_null (t : ValueType) : t.coerce .null = .ok .null := by
  cases t <;> rfl

/-- A field that is a text or a null is read as it is. -/
theorem coerce_eq_self {t : ValueType} (ht : t.isTextual = true) {v : Value}
    (hv : v = .null ∨ ∃ s, v = .text s) : t.coerce v = .ok v := by
  rcases hv with rfl | ⟨s, rfl⟩
  · exact coerce_null t
  · exact coerce_of_isTextual ht (by simp)

/-- The values that a type has for its own: texts, finite numbers or date-times. -/
def isNative : ValueType → Value → Bool
  | .text, .text _ | .longText, .text _ | .commaSplit, .text _ => true
  | .numeric, .number x => x.isFinite
  | .time, .time _ => true
  | _, _ => false

theorem ne_null_of_isNative {t : ValueType} {w : Value} (h : t.isNative w = true) : w ≠ .null := by
  rintro rfl
  cases t <;> exact nomatch h

theorem finite_eq_ok {x : Binary64} {w : Value} (h : finite x = .ok w) :
    w = .number x ∧ x.isFinite = true := by
  unfold finite at h
  split at h
  · exact ⟨(Except.ok.inj h).symm, ‹_›⟩
  · exact nomatch h

theorem isNative_of_native {t : ValueType} {v w : Value} (hv : v ≠ .null)
    (h : t.native v = .ok w) : t.isNative w = true := by
  cases t with
  | text | longText | commaSplit => cases v <;> cases h <;> first | rfl | exact absurd rfl hv
  | numeric =>
    cases v with
    | null => exact absurd rfl hv
    | number x =>
      obtain ⟨rfl, hx⟩ := finite_eq_ok h
      exact hx
    | text s =>
      simp only [native] at h
      split at h
      · obtain ⟨rfl, hx⟩ := finite_eq_ok h
        exact hx
      · exact nomatch h
    | time d => exact nomatch h
  | time =>
    cases v with
    | null => exact absurd rfl hv
    | number x => exact nomatch h
    | text s =>
      simp only [native] at h
      split at h
      · rw [← Except.ok.inj h]
        rfl
      · exact nomatch h
    | time d =>
      rw [← Except.ok.inj h]
      rfl

/-- **What reading a value can give**: null for null, and a native value for any other. -/
theorem coerce_cases {t : ValueType} {v w : Value} (h : t.coerce v = .ok w) :
    (v = .null ∧ w = .null) ∨ (v ≠ .null ∧ t.isNative w = true) := by
  by_cases hv : v = .null
  · rw [hv, coerce_null] at h
    exact .inl ⟨hv, (Except.ok.inj h).symm⟩
  · refine .inr ⟨hv, ?_⟩
    unfold coerce at h
    cases hn : t.native v with
    | error e => simp [hn, Except.mapError] at h
    | ok u =>
      simp only [hn, Except.mapError, Except.ok.injEq] at h
      exact h ▸ isNative_of_native hv hn

/-- **A native value is read as it is.** -/
theorem coerce_of_isNative {t : ValueType} {w : Value} (h : t.isNative w = true) :
    t.coerce w = .ok w := by
  cases t with
  | text | longText | commaSplit =>
    cases w with
    | text s => rfl
    | null | number x | time d => exact nomatch h
  | numeric =>
    cases w with
    | number x =>
      have hx : x.isFinite = true := h
      simp only [coerce, native, finite, hx, if_true, Except.mapError]
    | null | text s | time d => exact nomatch h
  | time =>
    cases w with
    | time d => rfl
    | null | number x | text s => exact nomatch h

theorem coerce_coerce {t : ValueType} {v w : Value} (h : t.coerce v = .ok w) :
    t.coerce w = .ok w := by
  rcases coerce_cases h with ⟨_, rfl⟩ | ⟨_, hw⟩
  · exact coerce_null t
  · exact coerce_of_isNative hw

end ValueType

namespace Condition

/-- **All that normalising can do**: drop the operands of a nullary operator, or read both. -/
theorem normalized_cases {c n : Condition} (h : c.normalized = .ok n) :
    (c.operator.arity = .nullary ∧ n = { c with operand := none, secondary := none }) ∨
    (c.operator.arity ≠ .nullary ∧ ∃ first second, c.primary = .ok first ∧
      c.second = .ok second ∧ n = { c with operand := some first, secondary := second }) := by
  unfold normalized at h
  cases harity : c.operator.arity with
  | nullary =>
    simp only [harity, Except.ok.injEq] at h
    exact .inl ⟨rfl, h.symm⟩
  | unary | multiValue =>
    refine .inr ⟨by simp, ?_⟩
    simp only [harity] at h
    cases hfirst : c.primary with
    | error e => simp [hfirst, bind, Except.bind] at h
    | ok first =>
      cases hsecond : c.second with
      | error e => simp [hfirst, hsecond, bind, Except.bind] at h
      | ok second =>
        simp only [hfirst, hsecond, bind, Except.bind, pure, Except.pure, Except.ok.injEq] at h
        exact ⟨first, second, rfl, rfl, h.symm⟩

/-- A nullary operator has a normal form, whatever operands it is given. -/
theorem normalized_of_nullary {c : Condition} (h : c.operator.arity = .nullary) :
    c.normalized = .ok (nullary c.identifier c.valueType c.operator) := by
  simp only [normalized, h]
  rfl

/-- The normal form is a condition on the same field, of the same type, with the same operator. -/
theorem normalized_keeps {c n : Condition} (h : c.normalized = .ok n) :
    n.identifier = c.identifier ∧ n.valueType = c.valueType ∧ n.operator = c.operator := by
  rcases normalized_cases h with ⟨_, rfl⟩ | ⟨_, first, second, _, _, rfl⟩
  · exact ⟨rfl, rfl, rfl⟩
  · exact ⟨rfl, rfl, rfl⟩

/-- The operand that a normal form was read from. -/
theorem primary_eq_ok {c : Condition} {w : Value} (h : c.primary = .ok w) :
    ∃ v, c.operand = some v ∧ v ≠ .null ∧ c.valueType.coerce v = .ok w := by
  unfold primary at h
  cases hv : c.operand with
  | none => simp [hv] at h
  | some v =>
    cases v with
    | null => simp [hv] at h
    | number x => exact ⟨_, rfl, by simp, by simpa [hv] using h⟩
    | text s => exact ⟨_, rfl, by simp, by simpa [hv] using h⟩
    | time t => exact ⟨_, rfl, by simp, by simpa [hv] using h⟩

/-- Under a textual type the operand of a normal form is a text. -/
theorem operand_of_normalized {c n : Condition} (h : c.normalized = .ok n)
    (ht : c.valueType.isTextual = true) (ha : c.operator.arity ≠ .nullary) :
    ∃ s, n.operand = some (.text s) := by
  rcases normalized_cases h with ⟨hnull, _⟩ | ⟨_, first, second, hfirst, _, rfl⟩
  · exact absurd hnull ha
  · obtain ⟨v, _, hv, hw⟩ := primary_eq_ok hfirst
    rw [ValueType.coerce_of_isTextual ht hv] at hw
    exact ⟨v.literal, by rw [Except.ok.inj hw]⟩

/-- **The operand of a normal form is native**, if its operator takes one. -/
theorem isNative_of_normalized {c n : Condition} (h : c.normalized = .ok n)
    (ha : c.operator.arity ≠ .nullary) :
    ∃ w, n.operand = some w ∧ c.valueType.isNative w = true := by
  rcases normalized_cases h with ⟨hnull, _⟩ | ⟨_, first, second, hfirst, _, rfl⟩
  · exact absurd hnull ha
  · obtain ⟨v, _, hv, hw⟩ := primary_eq_ok hfirst
    rcases ValueType.coerce_cases hw with ⟨hnull, _⟩ | ⟨_, hnative⟩
    · exact absurd hnull hv
    · exact ⟨first, rfl, hnative⟩

theorem primary_of_coerce {c : Condition} {v w : Value} (hoperand : c.operand = some v)
    (hv : v ≠ .null) (hread : c.valueType.coerce v = .ok w) : c.primary = .ok w := by
  unfold primary
  rw [hoperand]
  cases v with
  | null => exact absurd rfl hv
  | number x | text s | time t => exact hread

/-- Operands that can be read make a normal form. -/
theorem normalized_of_operands {n : Condition} {w : Value} {second : Option Value}
    (ha : n.operator.arity ≠ .nullary) (hprimary : n.primary = .ok w)
    (hsecond : n.second = .ok second) :
    n.normalized = .ok { n with operand := some w, secondary := second } := by
  unfold normalized
  cases harity : n.operator.arity with
  | nullary => exact absurd harity ha
  | unary | multiValue =>
    simp only [hprimary, hsecond, bind, Except.bind, pure, Except.pure]

theorem second_eq_ok {c : Condition} {w : Option Value} (h : c.second = .ok w) :
    (c.secondary = none ∧ w = none) ∨
      ∃ v u, c.secondary = some v ∧ c.valueType.coerce v = .ok u ∧ w = some u := by
  unfold second at h
  cases hv : c.secondary with
  | none =>
    simp only [hv, Except.ok.injEq] at h
    exact .inl ⟨rfl, h.symm⟩
  | some v =>
    cases hu : c.valueType.coerce v with
    | error e => simp [hv, hu, Except.map] at h
    | ok u =>
      simp only [hv, hu, Except.map, Except.ok.injEq] at h
      exact .inr ⟨v, u, rfl, hu, h.symm⟩

/-- **A normal form is its own normal form.** -/
theorem normalized_normalized {c n : Condition} (h : c.normalized = .ok n) :
    n.normalized = .ok n := by
  rcases normalized_cases h with ⟨harity, rfl⟩ | ⟨harity, first, second, hfirst, hsecond, rfl⟩
  · exact normalized_of_nullary harity
  · obtain ⟨w, hw, hnative⟩ := isNative_of_normalized h harity
    obtain rfl := Option.some.inj hw
    have hread : Condition.second { c with operand := some first, secondary := second } =
        .ok second := by
      rcases second_eq_ok hsecond with ⟨_, rfl⟩ | ⟨v, u, _, hu, rfl⟩
      · rfl
      · simp only [Condition.second, ValueType.coerce_coerce hu, Except.map]
    have hprimary : Condition.primary { c with operand := some first, secondary := second } =
        .ok first :=
      primary_of_coerce rfl (ValueType.ne_null_of_isNative hnative)
        (ValueType.coerce_of_isNative hnative)
    exact normalized_of_operands harity hprimary hread

/-- The tokens of a condition are those of a text operand. -/
theorem mem_tokens_iff {c : Condition} {t : String} :
    t ∈ c.tokens ↔ ∃ s, c.operand = some (.text s) ∧ t ∈ Criteria.tokens s := by
  unfold tokens
  cases hv : c.operand with
  | none => simp
  | some v => cases v <;> simp

end Condition

end Criteria
