/-
  Criteria/Proofs/Condition/Denial.lean
  =====================================
  **Operators that deny each other.**  Two operators are opposite if they belong
  to one family and exactly one of them is negated.  Putting one in the place of
  the other changes neither what a condition is defined for nor what it is
  normalised to, and turns each answer in memory into the other answer.
-/
import Criteria.Proofs.Evaluation

namespace Criteria

/-! ### Opposite operators -/

namespace Operator

/-- Two operators of one family, of which one denies what the other asserts. -/
structure Opposes (o o' : Operator) : Prop where
  family : o'.family = o.family
  sign : o'.isNegated = !o.isNegated

/-- The operator that denies a test of an operand. -/
def denial? : Operator → Option Operator
  | is => some not
  | prefixContains => some prefixNotContains
  | suffixContains => some suffixNotContains
  | contains => some notContains
  | isAny => some notAny
  | prefixContainsAny => some prefixNotContainsAny
  | suffixContainsAny => some suffixNotContainsAny
  | containsAny => some notContainsAny
  | _ => none

theorem opposes_of_denial {o o' : Operator} (h : o.denial? = some o') : o.Opposes o' := by
  cases o <;> simp only [denial?, Option.some.injEq, reduceCtorEq] at h <;> subst h <;>
    exact ⟨rfl, rfl⟩

/-- What is denied beside an absent field is a test of an operand. -/
theorem isNullCheck_of_denial {o o' : Operator} (h : o.denial? = some o') :
    o.isNullCheck = false := by
  cases o <;> simp only [denial?, reduceCtorEq] at h <;> rfl

namespace Opposes

variable {o o' : Operator} (h : o.Opposes o')

include h

theorem symm : o'.Opposes o := ⟨h.family.symm, by rw [h.sign, Bool.not_not]⟩

theorem arity_eq : o'.arity = o.arity := by simp only [arity, h.family]

theorem supports_eq (t : ValueType) : o'.supports t = o.supports t := by
  simp only [supports, valueTypes, h.family]

theorem isNullCheck_eq : o'.isNullCheck = o.isNullCheck := by simp only [isNullCheck, h.family]

theorem family_ne_ordering : o.family ≠ .ordering := by
  intro hf
  have hsign := h.sign
  rw [isNegated_of_ordering hf, isNegated_of_ordering (h.family.trans hf)] at hsign
  exact absurd hsign (by decide)

theorem family_ne_relativeDay (days : Int64) : o.family ≠ .relativeDay days := by
  intro hf
  have hsign := h.sign
  rw [isNegated_of_relativeDay hf, isNegated_of_relativeDay (h.family.trans hf)] at hsign
  exact absurd hsign (by decide)

end Opposes

end Operator

/-! ### Conditions with opposite operators -/

namespace Condition

/-- The same condition with another operator. -/
def withOperator (c : Condition) (o : Operator) : Condition := { c with operator := o }

@[simp] theorem withOperator_identifier (c : Condition) (o : Operator) :
    (c.withOperator o).identifier = c.identifier := rfl

@[simp] theorem withOperator_valueType (c : Condition) (o : Operator) :
    (c.withOperator o).valueType = c.valueType := rfl

@[simp] theorem withOperator_operator (c : Condition) (o : Operator) :
    (c.withOperator o).operator = o := rfl

@[simp] theorem withOperator_operand (c : Condition) (o : Operator) :
    (c.withOperator o).operand = c.operand := rfl

@[simp] theorem withOperator_tokens (c : Condition) (o : Operator) :
    (c.withOperator o).tokens = c.tokens := rfl

@[simp] theorem withOperator_withOperator (c : Condition) (o : Operator) :
    (c.withOperator o).withOperator c.operator = c := rfl

variable {c n : Condition} {o : Operator}

theorem primary_withOperator {w : Value} (h : c.primary = .ok w) (o : Operator) :
    (c.withOperator o).primary = .ok w := by
  obtain ⟨v, hv, hne, hw⟩ := primary_eq_ok h
  simp only [primary, withOperator_operand, hv]
  cases v with
  | null => exact absurd rfl hne
  | number x => exact hw
  | text s => exact hw
  | time t => exact hw

/-- The normal form depends on the operator by its arity alone. -/
theorem normalized_withOperator (ha : o.arity = c.operator.arity) (h : c.normalized = .ok n) :
    (c.withOperator o).normalized = .ok (n.withOperator o) := by
  rcases normalized_cases h with ⟨hnull, rfl⟩ | ⟨hne, first, second, hfirst, hsecond, rfl⟩
  · simp only [normalized, withOperator_operator, ha, hnull]
    rfl
  · have hfirst' := primary_withOperator hfirst o
    have hsecond' : (c.withOperator o).second = .ok second := hsecond
    rw [← ha] at hne
    unfold normalized
    cases harity : o.arity with
    | nullary => exact absurd harity hne
    | unary | multiValue =>
      simp only [withOperator_operator, harity, hfirst', hsecond']
      rfl

theorem opposes_of_normalized (h : c.operator.Opposes o) (hn : c.normalized = .ok n) :
    n.operator.Opposes o := by
  rw [(normalized_keeps hn).2.2]
  exact h

/-- **Opposite operators give opposite answers**, whatever the field holds. -/
theorem holds_withOperator (h : n.operator.Opposes o) (m : Moment) (field : Value) :
    (n.withOperator o).holds m field = !n.holds m field := by
  have hflip : ∀ b : Bool, (b != !n.operator.isNegated) = !(b != n.operator.isNegated) := by
    intro b
    cases b <;> cases n.operator.isNegated <;> rfl
  simp only [holds, withOperator_operator, withOperator_operand, h.family, h.sign]
  cases hf : n.operator.family with
  | nullCheck | equality => exact hflip _
  | substring kind | anyToken kind => exact hflip _
  | ordering => exact absurd hf h.family_ne_ordering
  | relativeDay days => exact absurd hf (h.family_ne_relativeDay days)

variable {m : Moment} {r : Record}

theorem evaluate_withOperator (h : c.operator.Opposes o) {b : Bool}
    (hb : c.evaluate m r = .ok b) : (c.withOperator o).evaluate m r = .ok !b := by
  obtain ⟨hs, v, field, n, hv, hfield, hn, -, hholds⟩ := evaluate_eq_ok_iff.mp hb
  have hn' := normalized_withOperator h.arity_eq hn
  have hcalm : (c.withOperator o).panics m field = false :=
    panics_of_family (fun days => h.symm.family_ne_relativeDay days) m field
  refine evaluate_eq_ok_iff.mpr ⟨?_, v, field, n.withOperator o, hv, hfield, hn', hcalm, ?_⟩
  · rw [isSupported] at hs ⊢
    rw [withOperator_operator, withOperator_valueType, h.supports_eq, hs]
  · rw [holds_withOperator (opposes_of_normalized h hn), hholds]

/-- An opposite operator has no answer where there is none. -/
theorem evaluate_withOperator_error (h : c.operator.Opposes o) {e : EvaluationError}
    (he : c.evaluate m r = .error e) : ∃ e', (c.withOperator o).evaluate m r = .error e' := by
  cases hother : (c.withOperator o).evaluate m r with
  | error e' => exact ⟨e', rfl⟩
  | ok b =>
    have hback := evaluate_withOperator (c := c.withOperator o) h.symm hother
    rw [withOperator_withOperator, he] at hback
    exact nomatch hback

end Condition

end Criteria
