/-
  Criteria/Proofs/Conjunction.lean
  ================================
  **A list of conditions is a conjunction, read from left to right.**  The first
  condition that does not hold of its record, or that has no answer, decides for
  the whole list (`evaluateAll_of_first`); the list holds if there is none.  So a
  list in two parts is decided by the first part unless that holds, and where all
  conditions have answers only the set of the conditions matters.  What is said of
  one condition alone is said of the list that holds nothing else.
-/
import Criteria.Proofs.Condition.Faults

namespace Criteria

/-- A condition with the record that it is asked of. -/
abbrev Question := Condition × Record

variable {m : Moment}

theorem evaluateAll_singleton (c : Condition) (r : Record) :
    evaluateAll m [(c, r)] = c.evaluate m r := by
  cases h : c.evaluate m r with
  | error e => simp only [evaluateAll, h]
  | ok b => cases b <;> simp only [evaluateAll, h]

theorem evaluateAll_cons_of_holds {x : Question} (hx : evaluateAll m [x] = .ok true)
    (xs : List Question) : evaluateAll m (x :: xs) = evaluateAll m xs := by
  obtain ⟨c, r⟩ := x
  rw [evaluateAll_singleton] at hx
  simp only [evaluateAll, hx]

theorem evaluateAll_cons_of_not_holds {x : Question} (hx : evaluateAll m [x] ≠ .ok true)
    (xs : List Question) : evaluateAll m (x :: xs) = evaluateAll m [x] := by
  obtain ⟨c, r⟩ := x
  rw [evaluateAll_singleton] at hx ⊢
  simp only [evaluateAll]

/-! ### The first condition that does not hold -/

/-- **What a front part decides**: nothing if it holds, and all of it if it does not. -/
theorem evaluateAll_append (xs ys : List Question) :
    (evaluateAll m xs = .ok true → evaluateAll m (xs ++ ys) = evaluateAll m ys) ∧
    (evaluateAll m xs ≠ .ok true → evaluateAll m (xs ++ ys) = evaluateAll m xs) := by
  induction xs with
  | nil => exact ⟨fun _ => rfl, fun h => absurd rfl h⟩
  | cons x xs ih =>
    by_cases hx : evaluateAll m [x] = .ok true
    · rw [List.cons_append, evaluateAll_cons_of_holds hx, evaluateAll_cons_of_holds hx]
      exact ih
    · rw [List.cons_append, evaluateAll_cons_of_not_holds hx xs,
        evaluateAll_cons_of_not_holds hx (xs ++ ys)]
      exact ⟨fun h => absurd h hx, fun _ => rfl⟩

theorem evaluateAll_eq_true_iff {xs : List Question} :
    evaluateAll m xs = .ok true ↔ ∀ x ∈ xs, evaluateAll m [x] = .ok true := by
  induction xs with
  | nil => simp [evaluateAll]
  | cons x xs ih =>
    rw [List.forall_mem_cons]
    by_cases hx : evaluateAll m [x] = .ok true
    · rw [evaluateAll_cons_of_holds hx, ih]
      exact ⟨fun h => ⟨hx, h⟩, fun h => h.2⟩
    · rw [evaluateAll_cons_of_not_holds hx]
      exact ⟨fun h => absurd h hx, fun h => h.1⟩

/-- **The first condition that does not hold decides**, whatever comes after it. -/
theorem evaluateAll_of_first {before : List Question} {x : Question}
    (hbefore : ∀ y ∈ before, evaluateAll m [y] = .ok true) (hx : evaluateAll m [x] ≠ .ok true)
    (after : List Question) : evaluateAll m (before ++ x :: after) = evaluateAll m [x] := by
  rw [(evaluateAll_append before _).1 (evaluateAll_eq_true_iff.mpr hbefore),
    evaluateAll_cons_of_not_holds hx]

/-- A list that does not hold has a first condition that does not. -/
theorem exists_first {xs : List Question} (h : evaluateAll m xs ≠ .ok true) :
    ∃ before x after, xs = before ++ x :: after ∧
      (∀ y ∈ before, evaluateAll m [y] = .ok true) ∧ evaluateAll m [x] ≠ .ok true := by
  induction xs with
  | nil => exact absurd rfl h
  | cons x xs ih =>
    by_cases hx : evaluateAll m [x] = .ok true
    · rw [evaluateAll_cons_of_holds hx] at h
      obtain ⟨before, y, after, rfl, hbefore, hy⟩ := ih h
      exact ⟨x :: before, y, after, rfl, List.forall_mem_cons.mpr ⟨hx, hbefore⟩, hy⟩
    · exact ⟨[], x, xs, rfl, fun y hy => absurd hy List.not_mem_nil, hx⟩

/-! ### Lists without errors -/

/-- Where all conditions have answers, the list has one. -/
theorem evaluateAll_isOk {xs : List Question} (h : ∀ x ∈ xs, ∃ b, evaluateAll m [x] = .ok b) :
    ∃ b, evaluateAll m xs = .ok b := by
  by_cases hxs : evaluateAll m xs = .ok true
  · exact ⟨true, hxs⟩
  · obtain ⟨before, x, after, rfl, hbefore, hx⟩ := exists_first hxs
    rw [evaluateAll_of_first hbefore hx]
    exact h x (by simp)

/-- **Where all conditions have answers, only the set of the conditions matters.** -/
theorem evaluateAll_congr {xs ys : List Question} (hmem : ∀ x, x ∈ xs ↔ x ∈ ys)
    (h : ∀ x ∈ xs, ∃ b, evaluateAll m [x] = .ok b) : evaluateAll m xs = evaluateAll m ys := by
  obtain ⟨b, hb⟩ := evaluateAll_isOk h
  have hys : ∀ y ∈ ys, ∃ b, evaluateAll m [y] = .ok b := fun y hy => h y ((hmem y).mpr hy)
  obtain ⟨b', hb'⟩ := evaluateAll_isOk hys
  have hequal : evaluateAll m xs = .ok true ↔ evaluateAll m ys = .ok true := by
    rw [evaluateAll_eq_true_iff, evaluateAll_eq_true_iff]
    simp only [hmem]
  rw [hb, hb', Except.ok.injEq, Except.ok.injEq] at hequal
  rw [hb, hb', Bool.eq_iff_iff.mpr hequal]

/-- **A list of conditions is a conjunction, read from left to right.**  It holds exactly if every
    condition alone does; if not, the first condition that does not hold alone gives the answer or
    the error of the list, whatever comes after it.  A list behind another one counts exactly if
    that one holds.  Where all conditions have answers their order and number do not matter.  And
    one condition alone ends in an error exactly if something is wrong with it, and then in that of
    the first thing that is; nothing else ends it but the lack of a date for today. -/
theorem evaluateAll_from_left (m : Moment) :
    (∀ xs, evaluateAll m xs = .ok true ↔ ∀ x ∈ xs, evaluateAll m [x] = .ok true) ∧
    (∀ xs, evaluateAll m xs ≠ .ok true → ∃ before x after, xs = before ++ x :: after ∧
      (∀ y ∈ before, evaluateAll m [y] = .ok true) ∧ evaluateAll m [x] ≠ .ok true ∧
      evaluateAll m xs = evaluateAll m [x]) ∧
    (∀ before x after, (∀ y ∈ before, evaluateAll m [y] = .ok true) →
      evaluateAll m [x] ≠ .ok true →
        evaluateAll m (before ++ x :: after) = evaluateAll m [x]) ∧
    (∀ xs ys, (evaluateAll m xs = .ok true → evaluateAll m (xs ++ ys) = evaluateAll m ys) ∧
      (evaluateAll m xs ≠ .ok true → evaluateAll m (xs ++ ys) = evaluateAll m xs)) ∧
    (∀ xs ys, (∀ x, x ∈ xs ↔ x ∈ ys) → (∀ x ∈ xs, ∃ b, evaluateAll m [x] = .ok b) →
      evaluateAll m xs = evaluateAll m ys) ∧
    (∀ (c : Condition) (r : Record) (e : EvaluationError), e ≠ .panic →
      (evaluateAll m [(c, r)] = .error e ↔ c.Fails r e)) ∧
    ∀ (c : Condition) (r : Record), evaluateAll m [(c, r)] = .error .panic ↔ c.Panics m r := by
  refine ⟨fun xs => evaluateAll_eq_true_iff, ?_, ?_, evaluateAll_append, ?_, ?_, ?_⟩
  · intro xs hxs
    obtain ⟨before, x, after, rfl, hbefore, hx⟩ := exists_first hxs
    exact ⟨before, x, after, rfl, hbefore, hx, evaluateAll_of_first hbefore hx after⟩
  · intro before x after hbefore hx
    exact evaluateAll_of_first hbefore hx after
  · intro xs ys hmem h
    exact evaluateAll_congr hmem h
  · intro c r e he
    rw [evaluateAll_singleton, Condition.evaluate_eq_error_iff he]
  · intro c r
    rw [evaluateAll_singleton, Condition.evaluate_eq_panic_iff]

/-- A condition that holds, one without an operand, and one without operand and field: the second
    decides.  Alone the third ends in the error of its field, which is looked at first. -/
theorem evaluateAll_from_left_errors :
    evaluateAll ⟨⟨⟨1970, 1, 1, by decide⟩, .midnight⟩, .utc⟩
        ([({ identifier := "a", valueType := .text, operator := .is,
             operand := some (.text "x") }, .plain [("a", .text "x")])] ++
          ({ identifier := "a", valueType := .text, operator := .not,
             operand := some .null }, .plain [("a", .text "x")]) ::
          [({ identifier := "b", valueType := .text, operator := .is,
              operand := some .null }, .plain [("a", .text "x")])]) =
      .error (.condition (.missingOperand .not "a")) ∧
    evaluateAll ⟨⟨⟨1970, 1, 1, by decide⟩, .midnight⟩, .utc⟩
        [({ identifier := "b", valueType := .text, operator := .is,
            operand := some .null }, .plain [("a", .text "x")])] =
      .error (.missingField "b") := by
  obtain ⟨-, -, hfirst, -, -, herror, -⟩ :=
    evaluateAll_from_left ⟨⟨⟨1970, 1, 1, by decide⟩, .midnight⟩, .utc⟩
  refine ⟨?_, (herror _ _ (.missingField "b") nofun).mpr (.absent rfl rfl)⟩
  have hread : Condition.fieldOf
      { identifier := "a", valueType := .text, operator := .not, operand := some .null }
      (.plain [("a", .text "x")]) = .ok (.text "x") := rfl
  have hmissing := (herror
    { identifier := "a", valueType := .text, operator := .not, operand := some .null }
    (.plain [("a", .text "x")]) (.condition (.missingOperand .not "a")) nofun).mpr
    (.missing rfl hread (by decide) (.inr rfl))
  rw [hfirst _ _ _ ?_ ?_, hmissing]
  · rw [List.forall_mem_singleton]
    decide +kernel
  · rw [hmissing]
    simp

end Criteria
