/-
  Criteria/Proofs/Sql/OperandTests.lean
  =====================================
  **What a clause says of a column with a value.**  Equality, the substring
  operators and whole-token membership each assert something of the column's text
  (`asserted`), in every dialect the same, and their negated forms deny just that.
  For one test the sign is the comparison, a `NOT` or the place of a token being
  zero; for the tests of several tokens it also turns `OR` into `AND`, which is the
  law of De Morgan and the only induction here.
-/
import Criteria.Proofs.Condition.Denial
import Criteria.Proofs.Sql.Membership
import Criteria.Proofs.Sql.Rendered
import Criteria.Proofs.Sql.TextTests

namespace Criteria.Sql

variable {row : Row} {x : List Char} {n : Condition}

/-- What a condition in normal form asserts of the text in a column, its sign aside. -/
def asserted (row : Row) (x : List Char) (n : Condition) : Bool :=
  match n.operator.family with
  | .equality => row.order x (operandText n) == .eq
  | .substring kind => kind.relates x (operandText n)
  | .anyToken _ => n.tokens.any fun t => (x.splitOn ',').contains t.toList
  | .nullCheck | .ordering | .relativeDay _ => false

/-! ### Joined tests -/

section

variable (d : Dialect) (row : Row) (f : String → Atom) (p : String → Bool)

-- Both by induction on the tests behind the first, which is the only one always there.
theorem truth_chain_or_eq (t : String) (ts : List String)
    (h : ∀ u ∈ t :: ts, ((f u).expr d).truth d row = some (p u)) :
    (chainExpr d .or (f t) (ts.map f)).truth d row = some ((t :: ts).any p) := by
  induction ts generalizing t with
  | nil => simpa [chainExpr, Connective.chain] using h t List.mem_cons_self
  | cons u us ih =>
    rw [List.map_cons, chainExpr_or_cons, Expr.truth_or, h t List.mem_cons_self,
      ih u fun v hv => h v (List.mem_cons_of_mem t hv), List.any_cons (l := u :: us)]
    cases p t <;> cases (u :: us).any p <;> rfl

theorem truth_chain_and_eq (t : String) (ts : List String)
    (h : ∀ u ∈ t :: ts, ((f u).expr d).truth d row = some (p u)) :
    (chainExpr d .and (f t) (ts.map f)).truth d row = some ((t :: ts).all p) := by
  induction ts generalizing t with
  | nil => simpa [chainExpr, Connective.chain] using h t List.mem_cons_self
  | cons u us ih =>
    rw [List.map_cons, chainExpr_and_cons, Expr.truth_and, h t List.mem_cons_self,
      ih u fun v hv => h v (List.mem_cons_of_mem t hv), List.all_cons (l := u :: us)]
    cases p t <;> cases (u :: us).all p <;> rfl

end

/-! ### Tests of an operand -/

theorem truth_equality (d : Dialect) (hvalue : row.value = some x)
    (hf : n.operator.family = .equality) (l : List Char) :
    ((Atom.compare (comparisonOf n.operator) l).expr d).truth d row =
      some ((row.order x l == .eq) != n.operator.isNegated) := by
  rw [truth_compare d hvalue, accepts_comparisonOf (.inl hf), Operator.admits_of_equality hf]

/-- Tests for tokens are joined so that they say whether some token is a piece of the text, or that
    none is. -/
theorem truth_tokens (d : Dialect) (hvalue : row.value = some x) (negated : Bool)
    {t : String} {ts : List String} (htokens : n.tokens = t :: ts) :
    (chainExpr d (if negated then .and else .or) (.member negated t.toList)
      (ts.map fun u => .member negated u.toList)).truth d row =
      some ((n.tokens.any fun u => decide (u.toList ∈ x.splitOn ',')) != negated) := by
  have hmember : ∀ u ∈ t :: ts, ((Atom.member negated u.toList).expr d).truth d row =
      some (decide (u.toList ∈ x.splitOn ',') != negated) := by
    intro u hu
    rw [← htokens] at hu
    obtain ⟨s, _, hs⟩ := Condition.mem_tokens_iff.mp hu
    have hchars := toList_mem_of_mem_tokens hs
    exact truth_member d hvalue (Text.ne_nil_of_mem_tokens hchars)
      (Text.comma_not_mem_of_mem_tokens hchars) negated
  rw [htokens]
  cases negated with
  | false =>
    rw [if_neg Bool.false_ne_true, truth_chain_or_eq d row (fun u => .member false u.toList) _ t ts
      hmember]
    simp
  | true =>
    rw [if_pos rfl, truth_chain_and_eq d row (fun u => .member true u.toList) _ t ts hmember,
      Bool.bne_true, List.not_any_eq_all_not]
    simp

section

variable {o : Operator} (hopposes : n.operator.Opposes o)

include hopposes

/-- **A clause that tests an operand says of a text what its family asserts**, or denies it. -/
theorem clauseOf?_asserted (d : Dialect) (hcheck : n.operator.isNullCheck = false) {q : Clause}
    (hq : clauseOf? n = some q) :
    ∃ e, q.expr? d = some e ∧ ∀ row x, row.value = some x →
      e.truth d row = some (asserted row x n != n.operator.isNegated) := by
  unfold clauseOf? at hq
  unfold asserted
  cases hf : n.operator.family with
  | nullCheck => simp [Operator.isNullCheck, hf] at hcheck
  | ordering => exact absurd hf hopposes.family_ne_ordering
  | relativeDay days => exact absurd hf (hopposes.family_ne_relativeDay days)
  | equality =>
    simp only [hf, Option.map_eq_some_iff] at hq
    obtain ⟨v, hv, rfl⟩ := hq
    have hraw : operandText n = v.literal.toList := by rw [operandText, hv]; rfl
    refine ⟨_, rfl, fun row x hvalue => ?_⟩
    rw [hraw]
    exact truth_equality d hvalue hf v.literal.toList
  | substring kind =>
    simp only [hf, Option.ite_none_right_eq_some, Option.map_eq_some_iff] at hq
    obtain ⟨_, v, hv, rfl⟩ := hq
    have hraw : operandText n = v.literal.toList := by rw [operandText, hv]; rfl
    refine ⟨_, rfl, fun row x hvalue => ?_⟩
    rw [hraw]
    exact truth_like d hvalue n.operator.isNegated kind v.literal.toList
  | anyToken kind =>
    cases kind with
    | exact =>
      simp only [hf, tokenClause?, Option.ite_none_left_eq_some, Option.some.injEq] at hq
      obtain ⟨htokens, rfl⟩ := hq
      obtain ⟨t, ts, hcons⟩ := List.exists_cons_of_ne_nil (by simpa using htokens : n.tokens ≠ [])
      refine ⟨_, by rw [hcons]; rfl, fun row x hvalue => ?_⟩
      simp only [List.contains_eq_mem]
      exact truth_tokens d hvalue n.operator.isNegated hcons
    | leading | trailing | within => simp [hf] at hq

theorem asserted_withOperator (row : Row) (x : List Char) :
    asserted row x (n.withOperator o) = asserted row x n := by
  unfold asserted
  simp only [Condition.withOperator_operator, hopposes.family]
  rfl

/-- There is a clause for an opposite operator if there is one at all. -/
theorem clauseOf?_withOperator {q : Clause} (hq : clauseOf? n = some q) :
    ∃ q', clauseOf? (n.withOperator o) = some q' := by
  unfold clauseOf? at hq ⊢
  simp only [Condition.withOperator_operator, Condition.withOperator_operand,
    Condition.withOperator_valueType, Condition.withOperator_tokens, hopposes.family]
  cases hf : n.operator.family with
  | nullCheck | relativeDay days => exact ⟨_, rfl⟩
  | equality | ordering =>
    simp only [hf, Option.map_eq_some_iff] at hq
    obtain ⟨v, hv, _⟩ := hq
    simp [hv]
  | substring kind =>
    simp only [hf, Option.ite_none_right_eq_some, Option.map_eq_some_iff] at hq
    obtain ⟨htype, v, hv, _⟩ := hq
    simp [htype, hv]
  | anyToken kind =>
    cases kind with
    | exact =>
      simp only [hf, tokenClause?, Option.ite_none_left_eq_some] at hq
      simpa [tokenClause?] using hq.1
    | leading | trailing | within => simp [hf] at hq

end

end Criteria.Sql
