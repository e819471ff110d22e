/-
  Criteria/Proofs/Sql/Rendered.lean
  =================================
  **What a rendered condition stands for.**  A clause with a test has an
  expression, and its text is read as that expression where the column's name is
  a word.  `Rendered` says both of a condition: which text it renders to, and which
  expression the text stands for.
-/
import Criteria.Proofs.Sql.Outline
import Criteria.Proofs.Sql.Readback

namespace Criteria.Sql

/-! ### Clauses -/

def Clause.expr? (d : Dialect) (q : Clause) : Option Expr :=
  match q.atoms with
  | [] => none
  | a :: as => some (chainExpr d q.connective a as)

theorem Clause.expression?_text {d : Dialect} {q : Clause} {e : Expr} (h : q.expr? d = some e)
    (hcol : IsColumn q.column.toList) :
    expression? d q.column.toList (q.text d).toList = some e := by
  obtain ⟨column, connective, atoms⟩ := q
  cases atoms with
  | nil => simp [expr?] at h
  | cons a as =>
    simp only [expr?, Option.some.injEq] at h
    rw [← h]
    exact Sql.expression?_text d hcol connective a as

/-! ### Conditions -/

/-- A condition renders to a text that stands for an expression.  The text is that of a clause on
    the condition's column; it is read as the expression where the column's name is a word. -/
structure Rendered (d : Dialect) (c : Condition) (text : String) (e : Expr) : Prop where
  rendered : c.toSql d = .sql text
  clause : ∃ q : Clause, q.column = c.identifier ∧ q.text d = text ∧ q.expr? d = some e
  read : IsColumn c.identifier.toList → expression? d c.identifier.toList text.toList = some e

theorem rendered_of_clauseOf? {d : Dialect} {c n : Condition} {q : Clause} {e : Expr}
    (hs : c.isSupported = true) (hn : c.normalized = .ok n) (hq : clauseOf? n = some q)
    (he : q.expr? d = some e) : Rendered d c (q.text d) e := by
  have hcolumn : q.column = c.identifier := by
    rw [clauseOf?_column hq, (Condition.normalized_keeps hn).1]
  refine ⟨?_, ⟨q, hcolumn, rfl, he⟩, ?_⟩
  · simp [Condition.toSql, clause?, hs, hn, hq]
  · intro hcol
    rw [← hcolumn] at hcol ⊢
    exact Clause.expression?_text he hcol

end Criteria.Sql
