/-
  Criteria/Proofs/Evaluation.lean
  ===============================
  **What evaluation in memory comes down to.**  A condition has an answer exactly
  if its operator is defined for its value type, the field is there and can be
  read, there is a normal form, and a date for today where one is asked for; the
  answer is then that of the normal form (`evaluate_eq_ok_iff`).

  The operators for equality and for order each admit some of the orders in which a
  field and an operand can stand (`Operator.admits`).  Those for equality and for
  parts of a text are alike on texts: each tests one relation of texts
  (`Operator.textKind?`) and may deny it.
-/
import Criteria.Evaluation
import Criteria.Proofs.Calendar.Instant
import Criteria.Proofs.Condition.Normal

namespace Criteria

theorem Operator.isRelativeDate_iff {o : Operator} :
    o.isRelativeDate = true ↔ ∃ days, o.family = .relativeDay days := by
  unfold isRelativeDate dayOffset?
  cases o.family <;> simp

namespace Condition

theorem fieldOf_eq_ok_iff {c : Condition} {r : Record} {v : Value} :
    c.fieldOf r = .ok v ↔ ∃ w, r.field? c.identifier = some w ∧ c.valueType.coerce w = .ok v := by
  unfold fieldOf
  cases hw : r.field? c.identifier with
  | none => simp
  | some w =>
    cases hv : c.valueType.coerce w with
    | error e => simp [hv, Except.mapError]
    | ok u => simp [hv, Except.mapError]

/-! ### The date for today -/

/-- Only an operator for a relative day asks for today. -/
theorem panics_of_family {c : Condition} (h : ∀ days, c.operator.family ≠ .relativeDay days)
    (m : Moment) (w : Value) : c.panics m w = false := by
  have hother : c.operator.isRelativeDate = false := by
    rw [← Bool.not_eq_true, Operator.isRelativeDate_iff]
    rintro ⟨days, hf⟩
    exact h days hf
  cases w <;> simp [panics, hother]

theorem panics_of_arity {c : Condition} (h : c.operator.arity ≠ .nullary) (m : Moment) (w : Value) :
    c.panics m w = false :=
  panics_of_family (fun days hf => h (by rw [Operator.arity, hf])) m w

theorem panics_of_normalized {c n : Condition} (h : c.normalized = .ok n) (m : Moment) :
    n.panics m = c.panics m := by
  funext w
  cases w <;> simp [panics, (normalized_keeps h).2.2]

/-- Where a condition asks for today, and the calendar has no date for it. -/
structure Panics (c : Condition) (m : Moment) (r : Record) : Prop where
  supported : c.isSupported = true
  relative : c.operator.isRelativeDate = true
  time : ∃ t, c.fieldOf r = .ok (.time t)
  outside : ¬ m.now.InCalendar m.zone

theorem panics_eq_true_iff {c : Condition} {m : Moment} {w : Value} :
    c.panics m w = true ↔
      (∃ t, w = .time t) ∧ c.operator.isRelativeDate = true ∧ ¬ m.now.InCalendar m.zone := by
  cases w with
  | time t => simp [panics, DateTime.localDate?_eq_none_iff]
  | null | number x | text s => simp [panics]

theorem panics_of_inCalendar {m : Moment} (h : m.now.InCalendar m.zone) (c : Condition)
    (w : Value) : c.panics m w = false := by
  rw [← Bool.not_eq_true, panics_eq_true_iff]
  exact fun hpanics => hpanics.2.2 h

theorem panics_null (c : Condition) (m : Moment) : c.panics m .null = false := rfl

/-! ### Answers -/

/-- What there is to ask of a condition and a record, up to the date for today. -/
theorem evaluate_of_parts {c n : Condition} {r : Record} {v field : Value} (m : Moment)
    (hs : c.isSupported = true) (hv : r.field? c.identifier = some v)
    (hfield : c.valueType.coerce v = .ok field) (hn : c.normalized = .ok n) :
    c.evaluate m r = if c.panics m field then .error .panic else .ok (n.holds m field) := by
  have hfieldOf : c.fieldOf r = .ok field := fieldOf_eq_ok_iff.mpr ⟨v, hv, hfield⟩
  rw [evaluate, if_pos hs, hfieldOf, hn]
  simp only [bind, Except.bind, Except.mapError, panics_of_normalized hn]

/-- **When a condition has an answer, and which.** -/
theorem evaluate_eq_ok_iff {m : Moment} {c : Condition} {r : Record} {b : Bool} :
    c.evaluate m r = .ok b ↔
      c.isSupported = true ∧ ∃ v field n, r.field? c.identifier = some v ∧
        c.valueType.coerce v = .ok field ∧ c.normalized = .ok n ∧ c.panics m field = false ∧
          n.holds m field = b := by
  constructor
  · intro h
    cases hs : c.isSupported with
    | false => simp [evaluate, hs] at h
    | true =>
      cases hv : r.field? c.identifier with
      | none => simp [evaluate, hs, fieldOf, hv, bind, Except.bind] at h
      | some v =>
        cases hfield : c.valueType.coerce v with
        | error e =>
          simp [evaluate, hs, fieldOf, hv, hfield, Except.mapError, bind, Except.bind] at h
        | ok field =>
          cases hn : c.normalized with
          | error e =>
            simp [evaluate, hs, fieldOf, hv, hfield, hn, Except.mapError, bind, Except.bind] at h
          | ok n =>
            rw [evaluate_of_parts m hs hv hfield hn] at h
            cases hpanics : c.panics m field with
            | true => simp [hpanics] at h
            | false =>
              exact ⟨rfl, v, field, n, rfl, hfield, rfl, hpanics, by simpa [hpanics] using h⟩
  · rintro ⟨hs, v, field, n, hv, hfield, hn, hpanics, rfl⟩
    rw [evaluate_of_parts m hs hv hfield hn, hpanics]
    rfl

theorem evaluate_eq_holds {c n : Condition} {r : Record} {v field : Value} (m : Moment)
    (hs : c.isSupported = true) (hv : r.field? c.identifier = some v)
    (hfield : c.valueType.coerce v = .ok field) (hn : c.normalized = .ok n)
    (hpanics : c.panics m field = false) : c.evaluate m r = .ok (n.holds m field) :=
  evaluate_eq_ok_iff.mpr ⟨hs, v, field, n, hv, hfield, hn, hpanics, rfl⟩

end Condition

/-! ### Null fields -/

theorem Operator.family_of_isNullCheck {o : Operator} (h : o.isNullCheck = true) :
    o.family = .nullCheck := by
  simpa [isNullCheck, beq_eq_decide] using h

theorem Operator.isNegated_of_ordering {o : Operator} (h : o.family = .ordering) :
    o.isNegated = false := by
  cases o <;> simp only [family, reduceCtorEq] at h <;> rfl

theorem Operator.isNegated_of_relativeDay {o : Operator} {days : Int64}
    (h : o.family = .relativeDay days) : o.isNegated = false := by
  cases o <;> simp only [family, reduceCtorEq] at h <;> rfl

/-- **A null passes the check for null, and whatever denies anything else.** -/
theorem Condition.holds_of_null (n : Condition) (m : Moment) :
    n.holds m .null = (n.operator.isNullCheck != n.operator.isNegated) := by
  unfold Operator.isNullCheck
  cases hf : n.operator.family with
  | nullCheck => simp [holds, hf, Value.isNull]
  | equality => simp [holds, hf, present, Value.isNull, beq_eq_decide]
  | ordering => simp [holds, hf, Value.order?, Operator.isNegated_of_ordering hf]
  | relativeDay days => simp [holds, hf, onDay, Operator.isNegated_of_relativeDay hf]
  | substring kind => simp [holds, hf, textsRelate, beq_eq_decide]
  | anyToken kind => simp [holds, hf, textsRelate, beq_eq_decide]

/-! ### Comparisons -/

namespace Operator

/-- An operator that compares a field with its operand, for equality or for order. -/
def Compares (o : Operator) : Prop := o.family = .equality ∨ o.family = .ordering

instance (o : Operator) : Decidable o.Compares := inferInstanceAs (Decidable (_ ∨ _))

/-- Whether a comparison holds of a field that compares so with the operand. -/
def admits : Operator → Ordering → Bool
  | .is, r => r == .eq
  | .not, r => r != .eq
  | o, r => o.accepts r

variable {o : Operator}

theorem Compares.arity_eq (h : o.Compares) : o.arity = .unary := by
  rcases h with hf | hf <;> simp [arity, hf]

theorem Compares.isNullCheck_eq (h : o.Compares) : o.isNullCheck = false := by
  rcases h with hf | hf <;> simp [isNullCheck, hf, beq_eq_decide]

theorem admits_of_equality (h : o.family = .equality) (r : Ordering) :
    o.admits r = ((r == .eq) != o.isNegated) := by
  cases o <;> simp only [family, reduceCtorEq] at h <;> cases r <;> rfl

theorem admits_of_ordering (h : o.family = .ordering) (r : Ordering) :
    o.admits r = o.accepts r := by
  cases o <;> simp only [family, reduceCtorEq] at h <;> rfl

end Operator

/-! ### Tests of texts -/

/-- The relation of texts that an operator for equality or for parts of a text tests. -/
def Operator.textKind? (o : Operator) : Option MatchKind :=
  match o.family with
  | .equality => some .exact
  | .substring kind => some kind
  | _ => none

namespace Operator

theorem family_of_textKind {o : Operator} {kind : MatchKind} (h : o.textKind? = some kind) :
    (o.family = .equality ∧ kind = .exact) ∨ o.family = .substring kind := by
  unfold textKind? at h
  cases hf : o.family with
  | equality => exact .inl ⟨rfl, by simpa [hf] using h.symm⟩
  | substring k => exact .inr (by simpa [hf] using h)
  | nullCheck => simp [hf] at h
  | relativeDay days => simp [hf] at h
  | ordering => simp [hf] at h
  | anyToken k => simp [hf] at h

theorem arity_of_textKind {o : Operator} {kind : MatchKind} (h : o.textKind? = some kind) :
    o.arity ≠ .nullary := by
  rcases family_of_textKind h with ⟨hf, _⟩ | hf
  · simp [arity, hf]
  · simp [arity, hf]

theorem supports_of_textKind {o : Operator} {kind : MatchKind} (h : o.textKind? = some kind)
    {t : ValueType} (ht : t = .text ∨ t = .longText) : o.supports t = true := by
  rcases family_of_textKind h with ⟨hf, _⟩ | hf
  · rcases ht with rfl | rfl <;> simp [supports, valueTypes, hf, ValueType.all]
  · rcases ht with rfl | rfl <;> simp [supports, valueTypes, hf]

end Operator

namespace Condition

variable {n : Condition} {kind : MatchKind} {p : String}

/-- On a text the relation is tested. -/
theorem holds_text (hop : n.operator.textKind? = some kind) (hp : n.operand = some (.text p))
    (m : Moment) (s : String) :
    n.holds m (.text s) = (kind.holds s p != n.operator.isNegated) := by
  have hoperand : n.operand.getD .null = .text p := by rw [hp, Option.getD_some]
  rcases Operator.family_of_textKind hop with ⟨hf, rfl⟩ | hf
  · have hexact : MatchKind.exact.holds s p = (s == p) := by
      rw [Bool.eq_iff_iff]
      simp only [MatchKind.holds, MatchKind.relates, beq_iff_eq, String.toList_inj]
    simp only [holds, hf, hoperand, hexact]
    rfl
  · simp only [holds, hf, hoperand, textsRelate]

/-- A null stands in no relation, so exactly the denials hold of it. -/
theorem holds_null (hop : n.operator.textKind? = some kind) (m : Moment) :
    n.holds m .null = n.operator.isNegated := by
  have hcheck : n.operator.isNullCheck = false := by
    rcases Operator.family_of_textKind hop with ⟨hf, _⟩ | hf
    · simp [Operator.isNullCheck, hf, beq_eq_decide]
    · simp [Operator.isNullCheck, hf, beq_eq_decide]
  rw [holds_of_null, hcheck, Bool.false_bne]

end Condition

end Criteria
