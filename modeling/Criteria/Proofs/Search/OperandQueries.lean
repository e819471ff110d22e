/-
  Criteria/Proofs/Search/OperandQueries.lean
  ==========================================
  **What a query for an operand selects.**  Equality, the substring operators and
  the token operators each have some leaves, which do not depend on the sign of the
  operator.  The query of the positive operator selects what some leaf selects, and
  the query of the negated one selects what none does, on any document: nothing is
  asked here of the values that a field has, or of how many there are.
-/
import Criteria.Proofs.Condition.Denial
import Criteria.Proofs.Search.Selection

namespace Criteria.Search

/-- The leaves of the query of a condition in normal form, its sign aside. -/
def leavesOf (n : Condition) : List Query :=
  match n.operator.family with
  | .equality => (n.operand.map fun v => .term n.identifier v).toList
  | .substring kind => (n.operand.map fun v => leafOf n.identifier kind v.literal).toList
  | .anyToken kind => n.tokens.map (leafOf n.identifier kind)
  | _ => []

section

variable {n : Condition} {o : Operator} (hopposes : n.operator.Opposes o)

include hopposes

/-- **A query for an operand selects what some leaf selects**, or what none does. -/
theorem selects_queryOf? (x : Indexed) (hcheck : n.operator.isNullCheck = false) {zone : Offset}
    {q : Query} (hq : queryOf? zone n = some q) :
    selects x q.toJson =
      (((leavesOf n).any fun l => selects x l.toJson) != n.operator.isNegated) := by
  unfold queryOf? at hq
  unfold leavesOf
  cases hf : n.operator.family with
  | nullCheck => simp [Operator.isNullCheck, hf] at hcheck
  | ordering => exact absurd hf hopposes.family_ne_ordering
  | relativeDay days => exact absurd hf (hopposes.family_ne_relativeDay days)
  | equality | substring kind =>
    simp only [hf, Option.map_eq_some_iff] at hq
    obtain ⟨v, hv, rfl⟩ := hq
    rw [selects_signedLeaf, hv]
    simp
  | anyToken kind =>
    simp only [hf, tokenQuery?, Option.ite_none_left_eq_some, Option.some.injEq] at hq
    obtain ⟨_, rfl⟩ := hq
    cases n.operator.isNegated with
    | false => rw [if_neg Bool.false_ne_true, selects_anyOf, Bool.bne_false]
    | true => rw [if_pos rfl, selects_noneOf, Bool.bne_true]

theorem leavesOf_withOperator : leavesOf (n.withOperator o) = leavesOf n := by
  unfold leavesOf
  simp only [Condition.withOperator_operator, hopposes.family]
  rfl

/-- There is a query for an opposite operator if there is one at all. -/
theorem queryOf?_withOperator {zone : Offset} {q : Query} (hq : queryOf? zone n = some q) :
    ∃ q', queryOf? zone (n.withOperator o) = some q' := by
  unfold queryOf? at hq ⊢
  simp only [Condition.withOperator_operator, Condition.withOperator_operand,
    Condition.withOperator_tokens, hopposes.family]
  cases hf : n.operator.family with
  | nullCheck | relativeDay days => exact ⟨_, rfl⟩
  | equality | ordering | substring kind =>
    simp only [hf, Option.map_eq_some_iff] at hq
    obtain ⟨v, hv, _⟩ := hq
    simp [hv]
  | anyToken kind =>
    simp only [hf, tokenQuery?, Option.ite_none_left_eq_some] at hq
    simpa [tokenQuery?] using hq.1

end

end Criteria.Search
