/-
  Criteria/Proofs/Complements.lean
  ================================
  **A denial is the complement of what it denies, on every target.**  Memory turns
  the answer around, a relational store has the negated test, a search engine asks
  that no leaf holds.  Each target has an answer to both conditions or to neither.
  In a relational store the complement is one of rows with a value: a test of a null
  column is unknown with either sign.
-/
import Criteria.Proofs.Answers
import Criteria.Proofs.Search.OperandQueries
import Criteria.Proofs.Sql.OperandTests

namespace Criteria

section

variable {c : Condition} {o : Operator} (hopposes : c.operator.Opposes o)

include hopposes

theorem Condition.isSupported_withOperator : (c.withOperator o).isSupported = c.isSupported :=
  hopposes.supports_eq c.valueType

/-! ### Relational stores -/

namespace Sql

theorem clause?_withOperator {q : Clause} (hq : clause? c = some q) :
    ∃ q', clause? (c.withOperator o) = some q' := by
  obtain ⟨hs, n, hn, hq⟩ := clause?_eq_some_iff.mp hq
  obtain ⟨q', hq'⟩ := clauseOf?_withOperator (Condition.opposes_of_normalized hopposes hn) hq
  refine ⟨q', clause?_eq_some_iff.mpr ⟨?_, n.withOperator o, ?_, hq'⟩⟩
  · rw [Condition.isSupported_withOperator hopposes, hs]
  · exact Condition.normalized_withOperator hopposes.arity_eq hn

theorem clause?_withOperator_none (hq : clause? c = none) : clause? (c.withOperator o) = none := by
  cases hother : clause? (c.withOperator o) with
  | none => rfl
  | some q' =>
    -- The condition is opposite to its opposite, and would have a clause too.
    obtain ⟨q, hback⟩ := clause?_withOperator (c := c.withOperator o) hopposes.symm hother
    rw [Condition.withOperator_withOperator, hq] at hback
    exact nomatch hback

/-- The text of a test of an operand stands for an expression that is true or false of every column
    with a value. -/
theorem rendered_asserted (d : Dialect) (hcheck : c.operator.isNullCheck = false) {q : Clause}
    (hq : clause? c = some q) {n : Condition} (hn : c.normalized = .ok n) :
    ∃ text e, Rendered d c text e ∧ ∀ row x, row.value = some x →
      e.truth d row = some (asserted row x n != c.operator.isNegated) := by
  obtain ⟨hs, k, hk, hq⟩ := clause?_eq_some_iff.mp hq
  obtain rfl : k = n := Except.ok.inj (hk.symm.trans hn)
  have hop := (Condition.normalized_keeps hn).2.2
  rw [← hop] at hopposes hcheck ⊢
  obtain ⟨e, he, htruth⟩ := clauseOf?_asserted hopposes d hcheck hq
  exact ⟨q.text d, e, rendered_of_clauseOf? hs hn hq he, htruth⟩

/-- **Opposite clauses part the rows with a value between them.** -/
theorem toSql_complements (d : Dialect) (hcheck : c.operator.isNullCheck = false) :
    (c.toSql d = .unsupported ∧ (c.withOperator o).toSql d = .unsupported) ∨
    ∃ text text' e e', Rendered d c text e ∧ Rendered d (c.withOperator o) text' e' ∧
      ∀ row, row.value ≠ none → ∃ b, e.truth d row = some b ∧ e'.truth d row = some !b := by
  cases hq : clause? c with
  | none =>
    have hq' := clause?_withOperator_none hopposes hq
    exact .inl ⟨by rw [Condition.toSql, hq], by rw [Condition.toSql, hq']⟩
  | some q =>
    obtain ⟨q', hq'⟩ := clause?_withOperator hopposes hq
    obtain ⟨_, n, hn, _⟩ := clause?_eq_some_iff.mp hq
    have hn' := Condition.normalized_withOperator hopposes.arity_eq hn
    have hcheck' : o.isNullCheck = false := hopposes.isNullCheck_eq.trans hcheck
    have hnopposes := Condition.opposes_of_normalized hopposes hn
    obtain ⟨text, e, hrendered, htruth⟩ := rendered_asserted hopposes d hcheck hq hn
    obtain ⟨text', e', hrendered', htruth'⟩ :=
      rendered_asserted (c := c.withOperator o) hopposes.symm d hcheck' hq' hn'
    refine .inr ⟨text, text', e, e', hrendered, hrendered', fun row hrow => ?_⟩
    obtain ⟨x, hx⟩ := Option.ne_none_iff_exists'.mp hrow
    refine ⟨_, htruth row x hx, ?_⟩
    rw [htruth' row x hx, asserted_withOperator hnopposes, Condition.withOperator_operator,
      hopposes.sign]
    cases asserted row x n <;> cases c.operator.isNegated <;> rfl

end Sql

/-! ### Search engines -/

namespace Search

theorem query?_withOperator {zone : Offset} {q : Query} (hq : query? zone c = some q) :
    ∃ q', query? zone (c.withOperator o) = some q' := by
  obtain ⟨hs, n, hn, hq⟩ := query?_eq_some_iff.mp hq
  obtain ⟨q', hq'⟩ := queryOf?_withOperator (Condition.opposes_of_normalized hopposes hn) hq
  refine ⟨q', query?_eq_some_iff.mpr ⟨?_, n.withOperator o, ?_, hq'⟩⟩
  · rw [Condition.isSupported_withOperator hopposes, hs]
  · exact Condition.normalized_withOperator hopposes.arity_eq hn

theorem query?_withOperator_none {zone : Offset} (hq : query? zone c = none) :
    query? zone (c.withOperator o) = none := by
  cases hother : query? zone (c.withOperator o) with
  | none => rfl
  | some q' =>
    obtain ⟨q, hback⟩ := query?_withOperator (c := c.withOperator o) hopposes.symm hother
    rw [Condition.withOperator_withOperator, hq] at hback
    exact nomatch hback

theorem selects_query? (hcheck : c.operator.isNullCheck = false) {zone : Offset} {q : Query}
    (hq : query? zone c = some q) {n : Condition} (hn : c.normalized = .ok n) (x : Indexed) :
    selects x q.toJson =
      (((leavesOf n).any fun l => selects x l.toJson) != c.operator.isNegated) := by
  obtain ⟨_, k, hk, hq⟩ := query?_eq_some_iff.mp hq
  obtain rfl : k = n := Except.ok.inj (hk.symm.trans hn)
  have hop := (Condition.normalized_keeps hn).2.2
  rw [← hop] at hopposes hcheck ⊢
  exact selects_queryOf? hopposes x hcheck hq

/-- **Opposite documents part the records between them.** -/
theorem toSearch_complements (zone : Offset) (hcheck : c.operator.isNullCheck = false) :
    (c.toSearch zone = .unsupported ∧ (c.withOperator o).toSearch zone = .unsupported) ∨
    ∃ doc doc', c.toSearch zone = .search doc ∧ (c.withOperator o).toSearch zone = .search doc' ∧
      ∀ x, selects x doc' = !selects x doc := by
  cases hq : query? zone c with
  | none =>
    have hq' := query?_withOperator_none hopposes hq
    exact .inl ⟨by rw [Condition.toSearch, hq], by rw [Condition.toSearch, hq']⟩
  | some q =>
    obtain ⟨q', hq'⟩ := query?_withOperator hopposes hq
    obtain ⟨_, n, hn, _⟩ := query?_eq_some_iff.mp hq
    have hn' := Condition.normalized_withOperator hopposes.arity_eq hn
    have hcheck' : o.isNullCheck = false := hopposes.isNullCheck_eq.trans hcheck
    have hnopposes := Condition.opposes_of_normalized hopposes hn
    refine .inr ⟨q.toJson, q'.toJson, by rw [Condition.toSearch, hq],
      by rw [Condition.toSearch, hq'], fun x => ?_⟩
    rw [selects_query? (c := c.withOperator o) hopposes.symm hcheck' hq' hn',
      selects_query? hopposes hcheck hq hn, leavesOf_withOperator hnopposes,
      Condition.withOperator_operator, hopposes.sign]
    cases (leavesOf n).any fun l => selects x l.toJson <;> cases c.operator.isNegated <;> rfl

end Search

end

/-! ### All targets -/

namespace Condition

/-- **A denial is the complement of what it denies.**  In memory the two conditions have opposite
    answers on every record that they have an answer on.  In a relational store both are rendered or
    neither is, and of a column with a value exactly one is true.  In a search engine both are
    rendered or neither is, and of every record exactly one document selects it. -/
theorem denial_complements {c : Condition} {o : Operator} (h : c.operator.denial? = some o) :
    (∀ m r, (∃ b, c.evaluate m r = .ok b ∧ (c.withOperator o).evaluate m r = .ok !b) ∨
      ∃ e e', c.evaluate m r = .error e ∧ (c.withOperator o).evaluate m r = .error e') ∧
    (∀ d, (c.toSql d = .unsupported ∧ (c.withOperator o).toSql d = .unsupported) ∨
      ∃ text text' e e', Sql.Rendered d c text e ∧ Sql.Rendered d (c.withOperator o) text' e' ∧
        ∀ row, row.value ≠ none → ∃ b, e.truth d row = some b ∧ e'.truth d row = some !b) ∧
    (∀ zone, (c.toSearch zone = .unsupported ∧ (c.withOperator o).toSearch zone = .unsupported) ∨
      ∃ doc doc', c.toSearch zone = .search doc ∧
        (c.withOperator o).toSearch zone = .search doc' ∧
        ∀ x, Search.selects x doc' = !Search.selects x doc) := by
  have hopposes := Operator.opposes_of_denial h
  have hcheck := Operator.isNullCheck_of_denial h
  refine ⟨?_, ?_, ?_⟩
  · intro m r
    cases hb : c.evaluate m r with
    | ok b => exact .inl ⟨b, rfl, evaluate_withOperator hopposes hb⟩
    | error e =>
      obtain ⟨e', he'⟩ := evaluate_withOperator_error hopposes hb
      exact .inr ⟨e, e', rfl, he'⟩
  · intro d
    exact Sql.toSql_complements hopposes d hcheck
  · intro zone
    exact Search.toSearch_complements hopposes zone hcheck

/-- Two tokens, one of them with a quote, on a text with a blank beside a comma. -/
theorem denial_complements_tokens :
    ∃ e e', Sql.expression? .sqlite "tags".toList
      "(instr(',' || tags || ',', ',it''s,') > 0 OR instr(',' || tags || ',', ',b,') > 0)".toList =
          some e ∧
      Sql.expression? .sqlite "tags".toList
      "(instr(',' || tags || ',', ',it''s,') = 0 AND instr(',' || tags || ',', ',b,') = 0)".toList =
          some e' ∧
      ∃ b, e.truth .sqlite ⟨some "a, b".toList, Sql.byCodePoint, 0, fun _ => none⟩ = some b ∧
        e'.truth .sqlite ⟨some "a, b".toList, Sql.byCodePoint, 0, fun _ => none⟩ = some !b := by
  have hdenial : Operator.isAny.denial? = some .notAny := rfl
  have hcol : Sql.IsColumn "tags".toList := by decide
  obtain ⟨_, hsql, _⟩ := denial_complements (o := .notAny)
    (c := { identifier := "tags", valueType := .commaSplit, operator := .isAny,
            operand := some (.text "it's, b") }) hdenial
  rcases hsql .sqlite with ⟨hnone, _⟩ | ⟨text, text', e, e', hread, hread', hrows⟩
  · exact nomatch hnone
  · obtain rfl := Fragment.sql.inj hread.rendered
    obtain rfl := Fragment.sql.inj hread'.rendered
    exact ⟨e, e', hread.read hcol, hread'.read hcol, hrows _ (by simp)⟩

end Condition

end Criteria
