/-
  Criteria/Proofs/Sql/StoredTokens.lean
  =====================================
  **How far token membership means the same in a relational store as in memory.**
  Memory asks for a token of the field, and a relational store for a piece of the
  column's text as it is stored.  A token of the operand has no blanks at its ends,
  so a piece that equals it is a token of the text too; but a token that the text
  holds with blanks around it is no piece.  The two answers part exactly where the
  text has a token of the operand and has none of them without blanks.
-/
import Criteria.Proofs.Answers
import Criteria.Proofs.Search.TokenQueries
import Criteria.Proofs.Sql.OperandTests

namespace Criteria

/-! ### Tokens and pieces of a text -/

namespace Condition

/-- Some token of the operand is a token of the text. -/
def SharesToken (n : Condition) (x : String) : Prop := ∃ t ∈ n.tokens, t ∈ Criteria.tokens x

/-- Some token of the operand is a piece of the text, as the text stands. -/
def SharesPiece (n : Condition) (x : String) : Prop :=
  ∃ t ∈ n.tokens, t.toList ∈ x.toList.splitOn ','

variable {n : Condition} {x : String}

theorem SharesPiece.sharesToken (h : n.SharesPiece x) : n.SharesToken x := by
  obtain ⟨t, ht, hpiece⟩ := h
  obtain ⟨s, _, hs⟩ := mem_tokens_iff.mp ht
  have hchars := toList_mem_of_mem_tokens hs
  have htoken : t.toList ∈ Text.tokens x.toList := Text.mem_tokens.mpr
    ⟨Text.ne_nil_of_mem_tokens hchars, t.toList, hpiece, Text.trim_of_mem_tokens hchars⟩
  exact ⟨t, ht, mem_tokens_of_toList_mem htoken⟩

theorem SharesToken.sharesPiece (h : n.SharesToken x)
    (hbare : ∀ piece ∈ x.toList.splitOn ',', Text.trim piece = piece) : n.SharesPiece x := by
  obtain ⟨t, ht, htoken⟩ := h
  obtain ⟨_, piece, hpiece, htrim⟩ := Text.mem_tokens.mp (toList_mem_of_mem_tokens htoken)
  rw [hbare piece hpiece] at htrim
  exact ⟨t, ht, htrim ▸ hpiece⟩

end Condition

/-! ### The two answers -/

section

variable {c n : Condition} (htype : c.valueType = .commaSplit)
  (hop : c.operator.family = .anyToken .exact)

include htype hop

theorem Condition.isSupported_member : c.isSupported = true := by
  simp [Condition.isSupported, Operator.supports, Operator.valueTypes, hop, htype]

variable (hn : c.normalized = .ok n)

include hn

/-- **Memory answers by the tokens that the field shares with the operand.** -/
theorem Condition.evaluate_member (m : Moment) {r : Record} {x : String}
    (hfield : r.field? c.identifier = some (.text x)) :
    ∃ b, c.evaluate m r = .ok (b != c.operator.isNegated) ∧ (b = true ↔ n.SharesToken x) := by
  obtain ⟨_, _, hnop⟩ := Condition.normalized_keeps hn
  have htextual : c.valueType.isTextual = true := by rw [htype]; rfl
  have harity : c.operator.arity ≠ .nullary := by simp [Operator.arity, hop]
  obtain ⟨p, hp⟩ := Condition.operand_of_normalized hn htextual harity
  have hnf : n.operator.family = .anyToken .exact := by rw [hnop, hop]
  refine ⟨(Criteria.tokens x).any fun s => n.tokens.any fun t => MatchKind.exact.holds s t, ?_, ?_⟩
  · rw [Condition.evaluate_eq_holds m (isSupported_member htype hop) hfield
      (ValueType.coerce_eq_self htextual (.inr ⟨x, rfl⟩)) hn (panics_of_arity harity m _),
      Condition.holds_anyToken hnf hp (.inr ⟨x, rfl⟩) m, hnop]
    rfl
  · simp only [List.any_eq_true, MatchKind.holds, MatchKind.relates, beq_iff_eq,
      String.toList_inj]
    constructor
    · rintro ⟨s, hs, t, ht, rfl⟩
      exact ⟨s, ht, hs⟩
    · rintro ⟨t, ht, hs⟩
      exact ⟨t, hs, t, ht, rfl⟩

/-- **A relational store answers by the pieces of the stored text.** -/
theorem Sql.rendered_member (d : Dialect) (htokens : n.tokens ≠ []) :
    ∃ text e, Rendered d c text e ∧ ∀ (row : Row) (x : String), row.value = some x.toList →
      ∃ b, e.truth d row = some (b != c.operator.isNegated) ∧ (b = true ↔ n.SharesPiece x) := by
  obtain ⟨_, _, hnop⟩ := Condition.normalized_keeps hn
  obtain ⟨t, ts, hcons⟩ := List.exists_cons_of_ne_nil htokens
  have hclause := clauseOf?_member (by rw [hnop]; exact hop) hcons
  refine ⟨_, _, rendered_of_clauseOf? (Condition.isSupported_member htype hop) hn hclause rfl,
    fun row x hvalue => ⟨n.tokens.any fun u => decide (u.toList ∈ x.toList.splitOn ','), ?_, ?_⟩⟩
  · rw [← hnop]
    exact truth_tokens d hvalue n.operator.isNegated hcons
  · simp [Condition.SharesPiece]

end

/-! ### Agreement -/

namespace Sql

/-- **Token membership agrees with memory but for tokens that are stored with blanks around them.**
    The rendered condition and memory give one answer if no piece of the stored text has a blank at
    an end, and in general exactly if the text does not share a token with the operand without
    sharing a piece.  Where the answers differ memory counts the token and the store does not. -/
theorem storedTokens_selects_iff_evaluate (d : Dialect) (m : Moment) {c n : Condition} {r : Record}
    {row : Row} {x : String} (htype : c.valueType = .commaSplit)
    (hop : c.operator = .isAny ∨ c.operator = .notAny) (hn : c.normalized = .ok n)
    (htokens : n.tokens ≠ []) (hfield : r.field? c.identifier = some (.text x))
    (hrow : row.value = some x.toList) :
    ∃ text e, Rendered d c text e ∧
      ((∀ piece ∈ x.toList.splitOn ',', Text.trim piece = piece) →
        (e.truth d row = some true ↔ c.evaluate m r = .ok true)) ∧
      ((e.truth d row = some true ↔ c.evaluate m r = .ok true) ↔
        (n.SharesToken x → n.SharesPiece x)) ∧
      (n.SharesToken x → ¬ n.SharesPiece x →
        c.evaluate m r = .ok (!c.operator.isNegated) ∧
          e.truth d row = some c.operator.isNegated) := by
  have hfamily := Operator.family_eq_anyToken_exact.mpr hop
  obtain ⟨token, hevaluate, htoken⟩ := Condition.evaluate_member htype hfamily hn m hfield
  obtain ⟨text, e, hrendered, htruth⟩ := rendered_member htype hfamily hn d htokens
  obtain ⟨piece, hpieces, hpiece⟩ := htruth row x hrow
  have hagree : (e.truth d row = some true ↔ c.evaluate m r = .ok true) ↔
      (n.SharesToken x → n.SharesPiece x) := by
    have hle : piece = true → token = true := fun h =>
      htoken.mpr (Condition.SharesPiece.sharesToken (hpiece.mp h))
    rw [hevaluate, hpieces, ← htoken, ← hpiece, Option.some.injEq, Except.ok.injEq]
    -- Both sides say that the two truths are one; the fourth case is the one that `hle` excludes.
    revert hle
    cases piece <;> cases token <;> cases c.operator.isNegated <;> simp
  refine ⟨text, e, hrendered, ?_, hagree, ?_⟩
  · intro hbare
    exact hagree.mpr fun h => h.sharesPiece hbare
  · intro hshares hnone
    have htokenTrue : token = true := htoken.mpr hshares
    have hpieceFalse : piece = false := by
      rw [← Bool.not_eq_true]
      exact fun h => hnone (hpiece.mp h)
    rw [hevaluate, hpieces, htokenTrue, hpieceFalse]
    simp

/-- A field with blanks inside a piece and none at an end of one. -/
theorem storedTokens_selects_iff_evaluate_inner :
    ∃ text e, Rendered .postgresql
        { identifier := "tags", valueType := .commaSplit, operator := .notAny,
          operand := some (.text "b c") } text e ∧
      (e.truth .postgresql ⟨some "a,b c".toList, byCodePoint, 0, fun _ => none⟩ = some true ↔
        Condition.evaluate ⟨⟨⟨1970, 1, 1, by decide⟩, .midnight⟩, .utc⟩
          { identifier := "tags", valueType := .commaSplit, operator := .notAny,
            operand := some (.text "b c") } (.plain [("tags", .text "a,b c")]) = .ok true) := by
  have htokens : Condition.tokens
      { identifier := "tags", valueType := .commaSplit, operator := .notAny,
        operand := some (.text "b c") } ≠ [] := by decide +kernel
  have hbare : ∀ piece ∈ "a,b c".toList.splitOn ',', Text.trim piece = piece := by decide +kernel
  have hfield : Record.field? (.plain [("tags", .text "a,b c")]) "tags" =
      some (.text "a,b c") := rfl
  have hrow : Row.value ⟨some "a,b c".toList, byCodePoint, 0, fun _ => none⟩ =
      some "a,b c".toList := rfl
  have hnormal : Condition.normalized
      { identifier := "tags", valueType := .commaSplit, operator := .notAny,
        operand := some (.text "b c") } = .ok
      { identifier := "tags", valueType := .commaSplit, operator := .notAny,
        operand := some (.text "b c") } := rfl
  obtain ⟨text, e, hrendered, hagree, _, _⟩ := storedTokens_selects_iff_evaluate .postgresql
    ⟨⟨⟨1970, 1, 1, by decide⟩, .midnight⟩, .utc⟩ rfl (.inr rfl) hnormal htokens hfield hrow
  exact ⟨text, e, hrendered, hagree hbare⟩

/-- **Not for every text.**  A token with a blank before it is found in memory alone. -/
theorem storedTokens_missed_after_blank :
    ∃ text e, Condition.toSql .mysql
        { identifier := "tags", valueType := .commaSplit, operator := .isAny,
          operand := some (.text "b") } = .sql text ∧
      expression? .mysql "tags".toList text.toList = some e ∧
      ¬ (e.truth .mysql ⟨some "a, b".toList, byCodePoint, 0, fun _ => none⟩ = some true ↔
        Condition.evaluate ⟨⟨⟨1970, 1, 1, by decide⟩, .midnight⟩, .utc⟩
          { identifier := "tags", valueType := .commaSplit, operator := .isAny,
            operand := some (.text "b") } (.plain [("tags", .text "a, b")]) = .ok true) := by
  refine ⟨"(FIND_IN_SET('b', tags))", .apply₂ .findInSet (.literal ['b']) .column, rfl,
    by decide +kernel, ?_⟩
  have hmissed : Expr.truth .mysql ⟨some "a, b".toList, byCodePoint, 0, fun _ => none⟩
      (.apply₂ .findInSet (.literal ['b']) .column) = some false := by decide +kernel
  have hfound : Condition.evaluate ⟨⟨⟨1970, 1, 1, by decide⟩, .midnight⟩, .utc⟩
      { identifier := "tags", valueType := .commaSplit, operator := .isAny,
        operand := some (.text "b") } (.plain [("tags", .text "a, b")]) = .ok true := by
    decide +kernel
  rw [hmissed, hfound]
  simp

end Sql

end Criteria
