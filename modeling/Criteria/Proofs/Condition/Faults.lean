/-
  Criteria/Proofs/Condition/Faults.lean
  =====================================
  **Why a condition has no answer.**  Five things can be wrong with a condition and
  the record it is asked of, and they are looked at in a fixed order: the operator
  and the value type, the field, the field's value, the presence of an operand, the
  values of the operands.  Each rule of `Fails` asks that all that is looked at
  before it is in order, so at most one of them applies, and `evaluate_eq_error_iff`
  says that the error is the one of that rule.  Neither the instant nor the zone
  matters to it.  Where nothing is wrong, a condition has an answer unless it asks
  for a date for today that the calendar does not have (`Panics`).
-/
import Criteria.Proofs.Evaluation

namespace Criteria

namespace Condition

/-- Why a condition has no answer on a record. -/
inductive Fails (c : Condition) (r : Record) : EvaluationError → Prop where
  /-- The operator is not defined for the value type. -/
  | pairing (h : c.isSupported = false) :
      Fails c r (.undefinedPairing c.operator c.valueType c.identifier)
  /-- The record does not have the field. -/
  | absent (hs : c.isSupported = true) (h : r.field? c.identifier = none) :
      Fails c r (.missingField c.identifier)
  /-- The field cannot be read as the value type. -/
  | field (hs : c.isSupported = true) {v : Value} (hv : r.field? c.identifier = some v)
      {e : ConditionError} (h : c.valueType.coerce v = .error e) : Fails c r (.condition e)
  /-- The operator needs an operand, and there is none or a null. -/
  | missing (hs : c.isSupported = true) {field : Value} (hfield : c.fieldOf r = .ok field)
      (harity : c.operator.arity ≠ .nullary) (h : c.operand = none ∨ c.operand = some .null) :
      Fails c r (.condition (.missingOperand c.operator c.identifier))
  /-- The operand cannot be read as the value type. -/
  | operand (hs : c.isSupported = true) {field : Value} (hfield : c.fieldOf r = .ok field)
      (harity : c.operator.arity ≠ .nullary) {v : Value} (hv : c.operand = some v)
      (hnull : v ≠ .null) {e : ConditionError} (h : c.valueType.coerce v = .error e) :
      Fails c r (.condition e)
  /-- The operand can be read, and the secondary operand cannot. -/
  | secondary (hs : c.isSupported = true) {field : Value} (hfield : c.fieldOf r = .ok field)
      (harity : c.operator.arity ≠ .nullary) {first : Value} (hfirst : c.primary = .ok first)
      {v : Value} (hv : c.secondary = some v) {e : ConditionError}
      (h : c.valueType.coerce v = .error e) : Fails c r (.condition e)

/-! ### Step by step -/

variable {c : Condition} {r : Record} {m : Moment}

theorem fieldOf_eq_error_iff {e : EvaluationError} :
    c.fieldOf r = .error e ↔
      (r.field? c.identifier = none ∧ e = .missingField c.identifier) ∨
      ∃ v e', r.field? c.identifier = some v ∧ c.valueType.coerce v = .error e' ∧
        e = .condition e' := by
  unfold fieldOf
  cases hv : r.field? c.identifier with
  | none => simp [eq_comm]
  | some v => cases hw : c.valueType.coerce v <;> simp [hw, Except.mapError, eq_comm]

theorem primary_eq_error_iff {e : ConditionError} :
    c.primary = .error e ↔
      ((c.operand = none ∨ c.operand = some .null) ∧
        e = .missingOperand c.operator c.identifier) ∨
      ∃ v, c.operand = some v ∧ v ≠ .null ∧ c.valueType.coerce v = .error e := by
  unfold primary
  cases hv : c.operand with
  | none => simp [eq_comm]
  | some v => cases v <;> simp [eq_comm]

theorem second_eq_error_iff {e : ConditionError} :
    c.second = .error e ↔ ∃ v, c.secondary = some v ∧ c.valueType.coerce v = .error e := by
  unfold second
  cases hv : c.secondary with
  | none => simp
  | some v => cases hw : c.valueType.coerce v <;> simp [hw, Except.map]

theorem normalized_eq_error_iff {e : ConditionError} :
    c.normalized = .error e ↔ c.operator.arity ≠ .nullary ∧
      (c.primary = .error e ∨ ∃ first, c.primary = .ok first ∧ c.second = .error e) := by
  unfold normalized
  cases harity : c.operator.arity with
  | nullary => simp
  | unary | multiValue =>
    cases hfirst : c.primary with
    | error e' => simp [bind, Except.bind]
    | ok first =>
      cases hsecond : c.second <;> simp [bind, Except.bind, pure, Except.pure]

/-- The pairing is looked at first, then the field, then the operands. -/
theorem evaluate_eq_error_cases {e : EvaluationError} :
    c.evaluate m r = .error e ↔
      (c.isSupported = false ∧ e = .undefinedPairing c.operator c.valueType c.identifier) ∨
      c.isSupported = true ∧ (c.fieldOf r = .error e ∨
        (∃ field e', c.fieldOf r = .ok field ∧ c.normalized = .error e' ∧ e = .condition e') ∨
        ∃ field n, c.fieldOf r = .ok field ∧ c.normalized = .ok n ∧ c.panics m field = true ∧
          e = .panic) := by
  have hside : ∀ e' : EvaluationError,
      (.error e' : Except EvaluationError Bool) = .error e ↔ e = e' :=
    fun e' => by rw [Except.error.injEq, eq_comm]
  unfold evaluate
  cases hs : c.isSupported with
  | false => simp [hside]
  | true =>
    cases hfield : c.fieldOf r with
    | error e' => simp [bind, Except.bind]
    | ok field =>
      cases hn : c.normalized with
      | error e' => simp [Except.mapError, bind, Except.bind, hside]
      | ok n =>
        simp only [if_true, Except.mapError, bind, Except.bind, panics_of_normalized hn]
        cases hpanics : c.panics m field <;> simp [hside, hpanics]

/-- An operator for a relative day has no operand that could be wrong. -/
theorem exists_panics_iff :
    (c.isSupported = true ∧ ∃ field n, c.fieldOf r = .ok field ∧ c.normalized = .ok n ∧
      c.panics m field = true) ↔ c.Panics m r := by
  constructor
  · rintro ⟨hs, field, n, hfield, -, hpanics⟩
    obtain ⟨⟨t, rfl⟩, hrelative, houtside⟩ := panics_eq_true_iff.mp hpanics
    exact ⟨hs, hrelative, ⟨t, hfield⟩, houtside⟩
  · rintro ⟨hs, hrelative, ⟨t, hfield⟩, houtside⟩
    obtain ⟨days, hf⟩ := Operator.isRelativeDate_iff.mp hrelative
    have harity : c.operator.arity = .nullary := by rw [Operator.arity, hf]
    exact ⟨hs, .time t, _, hfield, normalized_of_nullary harity,
      panics_eq_true_iff.mpr ⟨⟨t, rfl⟩, hrelative, houtside⟩⟩

/-! ### In order -/

theorem evaluate_eq_error_iff_or {e : EvaluationError} :
    c.evaluate m r = .error e ↔ c.Fails r e ∨ (e = .panic ∧ c.Panics m r) := by
  rw [evaluate_eq_error_cases, ← exists_panics_iff]
  constructor
  · rintro (⟨hs, rfl⟩ | ⟨hs, hfield | ⟨field, e', hfield, hn, rfl⟩ |
      ⟨field, n, hfield, hn, hpanics, rfl⟩⟩)
    · exact .inl (.pairing hs)
    · rcases fieldOf_eq_error_iff.mp hfield with ⟨hnone, rfl⟩ | ⟨v, e', hv, he, rfl⟩
      · exact .inl (.absent hs hnone)
      · exact .inl (.field hs hv he)
    · obtain ⟨harity, hfirst | ⟨first, hfirst, hsecond⟩⟩ := normalized_eq_error_iff.mp hn
      · rcases primary_eq_error_iff.mp hfirst with ⟨hnone, rfl⟩ | ⟨v, hv, hnull, he⟩
        · exact .inl (.missing hs hfield harity hnone)
        · exact .inl (.operand hs hfield harity hv hnull he)
      · obtain ⟨v, hv, he⟩ := second_eq_error_iff.mp hsecond
        exact .inl (.secondary hs hfield harity hfirst hv he)
    · exact .inr ⟨rfl, hs, field, n, hfield, hn, hpanics⟩
  · rintro (h | ⟨rfl, hs, field, n, hfield, hn, hpanics⟩)
    · cases h with
      | pairing hs => exact .inl ⟨hs, rfl⟩
      | absent hs hnone => exact .inr ⟨hs, .inl (fieldOf_eq_error_iff.mpr (.inl ⟨hnone, rfl⟩))⟩
      | field hs hv he =>
        exact .inr ⟨hs, .inl (fieldOf_eq_error_iff.mpr (.inr ⟨_, _, hv, he, rfl⟩))⟩
      | missing hs hfield harity hnone =>
        have hn := normalized_eq_error_iff.mpr
          ⟨harity, .inl (primary_eq_error_iff.mpr (.inl ⟨hnone, rfl⟩))⟩
        exact .inr ⟨hs, .inr (.inl ⟨_, _, hfield, hn, rfl⟩)⟩
      | operand hs hfield harity hv hnull he =>
        have hn := normalized_eq_error_iff.mpr
          ⟨harity, .inl (primary_eq_error_iff.mpr (.inr ⟨_, hv, hnull, he⟩))⟩
        exact .inr ⟨hs, .inr (.inl ⟨_, _, hfield, hn, rfl⟩)⟩
      | secondary hs hfield harity hfirst hv he =>
        have hn := normalized_eq_error_iff.mpr
          ⟨harity, .inr ⟨_, hfirst, second_eq_error_iff.mpr ⟨_, hv, he⟩⟩⟩
        exact .inr ⟨hs, .inr (.inl ⟨_, _, hfield, hn, rfl⟩)⟩
    · exact .inr ⟨hs, .inr (.inr ⟨field, n, hfield, hn, hpanics, rfl⟩)⟩

/-- **The error is the one of the first thing that is wrong.** -/
theorem evaluate_eq_error_iff {e : EvaluationError} (h : e ≠ .panic) :
    c.evaluate m r = .error e ↔ c.Fails r e := by
  rw [evaluate_eq_error_iff_or]
  exact ⟨fun hfails => hfails.resolve_right fun hpanic => h hpanic.1, .inl⟩

/-- Nothing that is wrong with a condition makes it panic. -/
theorem evaluate_eq_panic_iff : c.evaluate m r = .error .panic ↔ c.Panics m r := by
  rw [evaluate_eq_error_iff_or]
  exact ⟨fun h => h.elim nofun fun hpanics => hpanics.2, fun h => .inr ⟨rfl, h⟩⟩

end Condition

end Criteria
