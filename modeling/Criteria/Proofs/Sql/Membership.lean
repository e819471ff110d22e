/-
  Criteria/Proofs/Sql/Membership.lean
  ===================================
  **Token membership is the same in every dialect.**  One dialect looks the token
  up in a set, one compares it with the items of an array, and one looks for it
  between commas in the column's text with a comma put at each end.  All three
  say whether the token is a piece of the text (`truth_member`), because a token
  is not empty and holds no comma.  The tests of a clause are joined by `OR`, or
  by `AND` where they are denied.
-/
import Criteria.Proofs.Condition.Normal
import Criteria.Proofs.Sql.Outline
import Criteria.Proofs.Sql.Readback
import Criteria.Proofs.Value.Tokens

namespace Criteria.Sql

/-! ### One token -/

theorem occurrence_pos_iff (p s : List Char) : 0 < occurrence p s ↔ p <:+: s := by
  induction s with
  | nil => cases p <;> simp [occurrence]
  | cons c s ih =>
    rw [occurrence, List.infix_cons_iff]
    by_cases hfront : p.isPrefixOf (c :: s) = true
    · simp [hfront, List.isPrefixOf_iff_prefix.mp hfront]
    · have hnot : ¬ p <+: c :: s := fun h => hfront (List.isPrefixOf_iff_prefix.mpr h)
      rw [if_neg hfront, ← ih]
      cases occurrence p s <;> simp [hnot]

theorem compare_zero (n : Nat) : compare (n : Int) 0 = if 0 < n then .gt else .eq := by
  by_cases h : 0 < n
  · rw [if_pos h, Int.compare_eq_gt]
    omega
  · rw [if_neg h, Int.compare_eq_eq]
    omega

theorem place_pos_iff (t : List Char) (items : List (List Char)) :
    0 < place t items ↔ t ∈ items := by
  by_cases h : t ∈ items <;> simp [place, h]

/-- The empty text has no parts; it has one piece, the empty text. -/
theorem mem_parts_iff {t : List Char} (hne : t ≠ []) (sep : Char) (x : List Char) :
    t ∈ parts sep x ↔ t ∈ x.splitOn sep := by
  cases x with
  | nil => simp [parts, hne]
  | cons c x => simp [parts]

section

variable {row : Row} {x t : List Char}

/-- **Every dialect tests whether the token is a piece of the column's text.** -/
theorem truth_member (d : Dialect) (hvalue : row.value = some x) (hne : t ≠ [])
    (hcomma : ',' ∉ t) (negated : Bool) :
    ((Atom.member negated t).expr d).truth d row =
      some (decide (t ∈ x.splitOn ',') != negated) := by
  cases d with
  | mysql =>
    have hplace : ((place t (parts ',' x) : Int) != 0) = decide (t ∈ x.splitOn ',') := by
      rw [Bool.eq_iff_iff, bne_iff_ne, decide_eq_true_iff, ← mem_parts_iff hne, ← place_pos_iff]
      omega
    cases negated <;>
      simp [Atom.expr, memberExpr, Expr.truth, Expr.eval, Function.apply₂, hvalue, Datum.truth?,
        Datum.ofTruth, hplace]
  | postgresql =>
    have hitem : t ∈ parts ',' x ↔ t ∈ x.splitOn ',' := mem_parts_iff hne ',' x
    cases negated <;>
      simp [Atom.expr, memberExpr, Expr.truth, Expr.eval, Function.apply₂, hvalue, Datum.truth?,
        Datum.ofTruth, Datum.isItem, hitem]
  | sqlite =>
    have hoccurrence : 0 < occurrence (',' :: (t ++ [','])) (',' :: (x ++ [','])) ↔
        t ∈ x.splitOn ',' := by
      rw [occurrence_pos_iff, Text.mem_splitOn_iff_padded hcomma hne]
    simp only [Atom.expr, memberExpr, Expr.truth, Expr.eval, Function.apply₂, hvalue,
      Datum.concat, Datum.order?, Datum.truth?_ofTruth, List.cons_append, List.nil_append,
      Int.natCast_zero, compare_zero, hoccurrence, Option.map_some]
    cases negated <;> by_cases hmem : t ∈ x.splitOn ',' <;> simp [hmem, Comparison.accepts]

end

/-! ### All tokens -/

theorem truth_chain_or (d : Dialect) (row : Row) (f : String → Atom) (t : String)
    (ts : List String) :
    (chainExpr d .or (f t) (ts.map f)).truth d row = some true ↔
      ∃ u ∈ t :: ts, ((f u).expr d).truth d row = some true := by
  induction ts generalizing t with
  | nil => simp [chainExpr, Connective.chain]
  | cons u us ih =>
    rw [List.map_cons, chainExpr_or_cons, Expr.truth_or, Truth.or_eq_true, ih,
      List.exists_mem_cons_iff _ t]

theorem truth_chain_and (d : Dialect) (row : Row) (f : String → Atom) (t : String)
    (ts : List String) :
    (chainExpr d .and (f t) (ts.map f)).truth d row = some true ↔
      ∀ u ∈ t :: ts, ((f u).expr d).truth d row = some true := by
  induction ts generalizing t with
  | nil => simp [chainExpr, Connective.chain]
  | cons u us ih =>
    rw [List.map_cons, chainExpr_and_cons, Expr.truth_and, Truth.and_eq_true, ih,
      @List.forall_mem_cons _ _ t]

theorem clauseOf?_member {n : Condition} (hop : n.operator.family = .anyToken .exact)
    {t : String} {ts : List String} (htokens : n.tokens = t :: ts) :
    clauseOf? n = some ⟨n.identifier, if n.operator.isNegated then .and else .or,
      .member n.operator.isNegated t.toList ::
        ts.map fun u => .member n.operator.isNegated u.toList⟩ := by
  simp [clauseOf?, hop, tokenClause?, htokens]

/-- **Token membership selects by the pieces of the column's text, in every dialect.**  The
    rendered text of a condition is true of a column with a text exactly if some token of the
    operand is a piece of the text between two commas; the text of the denied condition is true
    exactly if no token is. -/
theorem membership_selects_iff (d : Dialect) {c n : Condition} {row : Row} {x : List Char}
    (htype : c.valueType = .commaSplit) (hop : c.operator = .isAny ∨ c.operator = .notAny)
    (hn : c.normalized = .ok n) (htokens : n.tokens ≠ []) (hcol : IsColumn c.identifier.toList)
    (hvalue : row.value = some x) :
    ∃ text e, c.toSql d = .sql text ∧
      expression? d c.identifier.toList text.toList = some e ∧
      (c.operator = .isAny →
        (e.truth d row = some true ↔ ∃ t ∈ n.tokens, t.toList ∈ x.splitOn ',')) ∧
      (c.operator = .notAny →
        (e.truth d row = some true ↔ ∀ t ∈ n.tokens, t.toList ∉ x.splitOn ',')) := by
  obtain ⟨hid, hntype, hnop⟩ := Condition.normalized_keeps hn
  have hfamily : c.operator.family = .anyToken .exact := by
    rcases hop with h | h <;> rw [h] <;> rfl
  have hsupported : c.isSupported = true := by
    rcases hop with h | h <;> simp [Condition.isSupported, h, htype] <;> rfl
  have htruth : ∀ u ∈ n.tokens, ∀ negated, ((Atom.member negated u.toList).expr d).truth d row =
      some (decide (u.toList ∈ x.splitOn ',') != negated) := by
    intro u hu negated
    obtain ⟨s, _, hs⟩ := Condition.mem_tokens_iff.mp hu
    have hchars := toList_mem_of_mem_tokens hs
    exact truth_member d hvalue (Text.ne_nil_of_mem_tokens hchars)
      (Text.comma_not_mem_of_mem_tokens hchars) negated
  obtain ⟨t, ts, hcons⟩ := List.exists_cons_of_ne_nil htokens
  have hclause := clauseOf?_member (by rw [hnop]; exact hfamily) hcons
  rw [hid, hnop] at hclause
  refine ⟨_, _, ?_, expression?_text d hcol (if c.operator.isNegated then .and else .or)
    (.member c.operator.isNegated t.toList)
    (ts.map fun u => .member c.operator.isNegated u.toList), ?_, ?_⟩
  · simp [Condition.toSql, clause?, hsupported, hn, hclause]
  · intro his
    rw [his, hcons]
    refine (truth_chain_or d row (fun u => .member false u.toList) t ts).trans ?_
    refine exists_congr fun u => and_congr_right fun hu => ?_
    rw [htruth u (hcons ▸ hu)]
    simp
  · intro hnot
    rw [hnot, hcons]
    refine (truth_chain_and d row (fun u => .member true u.toList) t ts).trans ?_
    refine forall_congr' fun u => forall_congr' fun hu => ?_
    rw [htruth u (hcons ▸ hu)]
    simp

/-- Tokens with a quote and with an inner blank, denied, and a text that begins with a comma. -/
theorem membership_selects_iff_denied :
    ∃ text e, Condition.toSql .mysql
        { identifier := "tags", valueType := .commaSplit, operator := .notAny,
          operand := some (.text "it's, a b") } = .sql text ∧
      expression? .mysql "tags".toList text.toList = some e ∧
      (Operator.notAny = .isAny →
        (e.truth .mysql ⟨some ",a b".toList, byCodePoint, 0, fun _ => none⟩ = some true ↔
          ∃ t ∈ tokens "it's, a b", t.toList ∈ ",a b".toList.splitOn ',')) ∧
      (Operator.notAny = .notAny →
        (e.truth .mysql ⟨some ",a b".toList, byCodePoint, 0, fun _ => none⟩ = some true ↔
          ∀ t ∈ tokens "it's, a b", t.toList ∉ ",a b".toList.splitOn ',')) := by
  have htokens : Condition.tokens
      { identifier := "tags", valueType := .commaSplit, operator := .notAny,
        operand := some (.text "it's, a b") } ≠ [] := by decide +kernel
  have hcol : IsColumn "tags".toList := by decide
  exact membership_selects_iff .mysql rfl (.inr rfl) rfl htokens hcol rfl

end Criteria.Sql
