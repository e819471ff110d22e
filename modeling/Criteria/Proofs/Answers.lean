/-
  Criteria/Proofs/Answers.lean
  ============================
  **Which conditions each target has an answer for.**  A condition is well formed
  if its operator is defined for its value type and it has a normal form; both are
  said of the condition alone.  Evaluation in memory asks for no more, once the
  field is there and can be read.  A search engine asks for a token besides, where
  tokens are tested, and a relational store for a primitive (`LacksPrimitive`).

  The three decide on their own, each by cases over the operators.  The lemmas on
  `queryOf?` and `clauseOf?` say what is left of these cases for a normal form:
  nothing but the tokens, and the primitives.
-/
import Criteria.Proofs.Condition.Faults
import Criteria.Renderer

namespace Criteria

/-! ### What a condition has to have -/

theorem Operator.family_eq_anyToken_exact {o : Operator} :
    o.family = .anyToken .exact ↔ o = .isAny ∨ o = .notAny := by
  cases o <;> simp [family]

namespace Condition

end Condition

/-! ### Evaluation -/

namespace Condition

variable {m : Moment} {c : Condition} {r : Record}

theorem evaluate_of_not_isSupported (h : c.isSupported = false) :
    c.evaluate m r = .error (.undefinedPairing c.operator c.valueType c.identifier) := by
  simp [evaluate, h]

end Condition

/-! ### Rendering -/

section

variable {n : Condition} (hoperand : n.operator.arity ≠ .nullary → ∃ v, n.operand = some v)

include hoperand

end

theorem Search.query?_eq_some_iff {zone : Offset} {c : Condition} {q : Query} :
    query? zone c = some q ↔
      c.isSupported = true ∧ ∃ n, c.normalized = .ok n ∧ queryOf? zone n = some q := by
  unfold query?
  rcases c.isSupported with _ | _
  · simp
  · rcases c.normalized with e | n <;> simp

theorem Search.toSearch_of_queryOf? {zone : Offset} {c n : Condition} {q : Query}
    (hs : c.isSupported = true) (hn : c.normalized = .ok n) (hq : queryOf? zone n = some q) :
    c.toSearch zone = .search q.toJson := by
  rw [Condition.toSearch, query?_eq_some_iff.mpr ⟨hs, n, hn, hq⟩]

theorem Sql.clause?_eq_some_iff {c : Condition} {q : Clause} :
    clause? c = some q ↔
      c.isSupported = true ∧ ∃ n, c.normalized = .ok n ∧ clauseOf? n = some q := by
  unfold clause?
  rcases c.isSupported with _ | _
  · simp
  · rcases c.normalized with e | n <;> simp

namespace Condition

variable (c : Condition)

end Condition

end Criteria
