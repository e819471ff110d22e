/-
  Criteria/Proofs/Sql/NullColumn.lean
  ===================================
  **What becomes of a null column.**  In memory a null passes the check for null
  and every denial.  In a relational store a test of a null column is unknown,
  unless it is a check for null itself, and denying the test leaves it unknown.  So
  the two agree on a null but for the denials of an operand: memory answers yes to
  all of them, and a relational store selects the row by none.
-/
import Criteria.Proofs.Evaluation
import Criteria.Proofs.Sql.Rendered

namespace Criteria

theorem Operator.eq_isNotNull {o : Operator} (hcheck : o.isNullCheck = true)
    (hnegated : o.isNegated = true) : o = .isNotNull := by
  cases o <;> simp [isNullCheck, family, isNegated, beq_eq_decide] at hcheck hnegated ⊢

namespace Sql

/-! ### Tests of a null column -/

section

variable {row : Row} (hrow : row.value = none)

include hrow

theorem truth_null_of_null (d : Dialect) (negated : Bool) :
    ((Atom.null negated).expr d).truth d row = some !negated := by
  simp [Atom.expr, Expr.truth, Expr.eval, hrow, Datum.isNull, Datum.truth?]

/-- **A test of a null column is unknown**, denied or not, unless it is a check for null. -/
theorem truth_atom_of_null (d : Dialect) {a : Atom} (ha : ∀ negated, a ≠ .null negated) :
    (a.expr d).truth d row = none := by
  cases a with
  | compare c literal =>
    simp [Atom.expr, Expr.truth, Expr.eval, hrow, Datum.order?]
  | null negated => exact absurd rfl (ha negated)
  | like negated pattern escapes =>
    simp [Atom.expr, Expr.truth, Expr.eval, hrow, Datum.matches, Datum.truth?]
  | onDay days =>
    cases d <;>
      simp [Atom.expr, dayExpr, Expr.truth, Expr.eval, hrow, Function.apply, Datum.order?]
  | member negated token =>
    have hunknown : Truth.not none = none := rfl
    cases d <;> cases negated <;>
      simp [Atom.expr, memberExpr, Expr.truth, Expr.eval, hrow, Function.apply₂, Datum.concat,
        Datum.isItem, Datum.order?, Datum.ofTruth, Datum.truth?, hunknown]

theorem truth_chain_of_null (d : Dialect) (k : Connective) {a : Atom} {as : List Atom}
    (h : ∀ b ∈ a :: as, ∀ negated, b ≠ .null negated) :
    (chainExpr d k a as).truth d row = none := by
  induction as generalizing a with
  | nil => exact truth_atom_of_null hrow d (h a List.mem_cons_self)
  | cons b bs ih =>
    have hhead := truth_atom_of_null hrow d (h a List.mem_cons_self)
    have htail : (chainExpr d k b bs).truth d row = none :=
      ih fun c hc => h c (List.mem_cons_of_mem a hc)
    cases k with
    | or =>
      rw [chainExpr_or_cons, Expr.truth_or, hhead, htail]
      rfl
    | and =>
      rw [chainExpr_and_cons, Expr.truth_and, hhead, htail]
      rfl

end

/-! ### Clauses on a null column -/

/-- A null check reads the column, and for texts compares it with the empty text besides. -/
theorem nullClause_of_null (d : Dialect) {row : Row} (hrow : row.value = none) (column : String)
    (negated foldsEmpty : Bool) :
    ∃ e, (nullClause column negated foldsEmpty).expr? d = some e ∧
      (e.truth d row = some true ↔ negated = false) := by
  have hnull := truth_null_of_null hrow d negated
  cases foldsEmpty with
  | false =>
    refine ⟨(Atom.null negated).expr d, rfl, ?_⟩
    simp [hnull]
  | true =>
    have hempty : ((Atom.compare (if negated then .ne else .eq) []).expr d).truth d row = none :=
      truth_atom_of_null hrow d (by simp)
    refine ⟨.or ((Atom.null negated).expr d)
      ((Atom.compare (if negated then .ne else .eq) []).expr d), rfl, ?_⟩
    rw [Expr.truth_or, Truth.or_eq_true, hnull, hempty]
    simp

theorem clauseOf?_nullCheck {n : Condition} {q : Clause} (h : clauseOf? n = some q)
    (hcheck : n.operator.isNullCheck = true) :
    q = nullClause n.identifier n.operator.isNegated n.valueType.foldsEmpty := by
  unfold clauseOf? at h
  simp only [Operator.family_of_isNullCheck hcheck, Option.some.injEq] at h
  exact h.symm

/-- A clause of another family has a test, and no check for null among its tests. -/
theorem clauseOf?_atoms {n : Condition} {q : Clause} (h : clauseOf? n = some q)
    (hcheck : n.operator.isNullCheck = false) :
    ∃ a as, q.atoms = a :: as ∧ ∀ b ∈ a :: as, ∀ negated, b ≠ .null negated := by
  unfold clauseOf? at h
  cases hf : n.operator.family with
  | nullCheck => simp [Operator.isNullCheck, hf] at hcheck
  | relativeDay days =>
    simp only [hf, Option.some.injEq] at h
    exact ⟨_, _, by rw [← h], by simp⟩
  | equality | ordering =>
    simp only [hf, Option.map_eq_some_iff] at h
    obtain ⟨v, _, rfl⟩ := h
    exact ⟨_, _, rfl, by simp⟩
  | substring kind =>
    simp only [hf, Option.ite_none_right_eq_some, Option.map_eq_some_iff] at h
    obtain ⟨_, v, _, rfl⟩ := h
    exact ⟨_, _, rfl, by simp⟩
  | anyToken kind =>
    cases kind with
    | exact =>
      simp only [hf, tokenClause?, Option.ite_none_left_eq_some, Option.some.injEq] at h
      obtain ⟨htokens, rfl⟩ := h
      obtain ⟨t, ts, hcons⟩ := List.exists_cons_of_ne_nil (by simpa using htokens : n.tokens ≠ [])
      exact ⟨_, _, by rw [hcons, List.map_cons], by simp⟩
    | leading | trailing | within => simp [hf] at h

/-- **A clause selects a null column exactly if it asks for null**; if it asks for something else it
    is unknown. -/
theorem clauseOf?_of_null (d : Dialect) {row : Row} (hrow : row.value = none) {n : Condition}
    {q : Clause} (h : clauseOf? n = some q) :
    ∃ e, q.expr? d = some e ∧
      (e.truth d row = some true ↔ n.operator.isNullCheck = true ∧ n.operator.isNegated = false) ∧
      (n.operator.isNullCheck = false → e.truth d row = none) := by
  rcases hcheck : n.operator.isNullCheck with _ | _
  · obtain ⟨a, as, hatoms, hnone⟩ := clauseOf?_atoms h hcheck
    have hunknown := truth_chain_of_null hrow d q.connective hnone
    refine ⟨chainExpr d q.connective a as, by rw [Clause.expr?, hatoms], ?_, fun _ => hunknown⟩
    rw [hunknown]
    simp
  · obtain ⟨e, he, htruth⟩ := nullClause_of_null d hrow n.identifier n.operator.isNegated
      n.valueType.foldsEmpty
    refine ⟨e, by rw [clauseOf?_nullCheck h hcheck, he], ?_, ?_⟩
    · rw [htruth]
      simp
    · simp

/-- **On a null column a relational store and memory agree, but for the denials.**  The rendered
    text of a condition is the text of a clause, and is read as its expression where the column's
    name is a word.  If the condition denies nothing, or only that the column is null, a null column
    is selected exactly if memory says yes.  Any other denial is unknown of a null column, and
    memory says yes. -/
theorem nullColumn_selects_iff_evaluate (d : Dialect) (m : Moment) {c : Condition} {text : String}
    {r : Record} {row : Row} (h : c.toSql d = .sql text)
    (hfield : r.field? c.identifier = some .null) (hrow : row.value = none) :
    ∃ (q : Clause) (e : Expr), q.column = c.identifier ∧ text = q.text d ∧ q.expr? d = some e ∧
      (IsColumn c.identifier.toList → expression? d c.identifier.toList text.toList = some e) ∧
      (c.operator.isNegated = false ∨ c.operator = .isNotNull →
        (e.truth d row = some true ↔ c.evaluate m r = .ok true)) ∧
      (c.operator.isNegated = true → c.operator ≠ .isNotNull →
        e.truth d row = none ∧ c.evaluate m r = .ok true) := by
  obtain ⟨n, q, hs, hn, hq, rfl⟩ := toSql_eq_sql h
  obtain ⟨hid, _, hop⟩ := Condition.normalized_keeps hn
  have hcolumn : q.column = c.identifier := by rw [clauseOf?_column hq, hid]
  obtain ⟨e, he, hselected, hunknown⟩ := clauseOf?_of_null d hrow hq
  rw [hop] at hselected hunknown
  have hevaluate : c.evaluate m r =
      .ok (c.operator.isNullCheck != c.operator.isNegated) := by
    rw [Condition.evaluate_eq_holds m hs hfield (ValueType.coerce_null c.valueType) hn
      (c.panics_null m), Condition.holds_of_null, hop]
  refine ⟨q, e, hcolumn, rfl, he, ?_, ?_, ?_⟩
  · intro hcol
    rw [← hcolumn] at hcol ⊢
    exact Clause.expression?_text he hcol
  · intro hagree
    rw [hselected, hevaluate, Except.ok.injEq]
    rcases hagree with hnegated | hnotNull
    · rw [hnegated, Bool.bne_false]
      simp
    · rw [hnotNull]
      decide
  · intro hnegated hnotNull
    have hcheck : c.operator.isNullCheck = false := by
      by_contra hcheck
      exact hnotNull (Operator.eq_isNotNull (by simpa using hcheck) hnegated)
    refine ⟨hunknown hcheck, ?_⟩
    rw [hevaluate, hcheck, hnegated]
    rfl

/-- A list of denied memberships is unknown of a null, and memory says that each of them holds. -/
theorem nullColumn_selects_iff_evaluate_denied :
    ∃ (q : Clause) (e : Expr), "(NOT FIND_IN_SET('a', tags) AND NOT FIND_IN_SET('b', tags))" =
        q.text .mysql ∧ q.expr? .mysql = some e ∧
      e.truth .mysql ⟨none, byCodePoint, 0, fun _ => none⟩ = none ∧
      Condition.evaluate ⟨⟨⟨1970, 1, 1, by decide⟩, .midnight⟩, .utc⟩
        { identifier := "tags", valueType := .commaSplit, operator := .notAny,
          operand := some (.text "a, b") } (.plain [("tags", .null)]) = .ok true := by
  have hrendered : Condition.toSql .mysql
      { identifier := "tags", valueType := .commaSplit, operator := .notAny,
        operand := some (.text "a, b") } =
      .sql "(NOT FIND_IN_SET('a', tags) AND NOT FIND_IN_SET('b', tags))" := rfl
  have hfield : Record.field? (.plain [("tags", .null)]) "tags" = some .null := rfl
  have hrow : Row.value ⟨none, byCodePoint, 0, fun _ => none⟩ = none := rfl
  obtain ⟨q, e, _, htext, he, _, _, hdenied⟩ := nullColumn_selects_iff_evaluate .mysql
    ⟨⟨⟨1970, 1, 1, by decide⟩, .midnight⟩, .utc⟩ hrendered hfield hrow
  obtain ⟨hunknown, hevaluate⟩ := hdenied rfl (by decide)
  exact ⟨q, e, htext, he, hunknown, hevaluate⟩

/-- **Not for every condition.**  A null is unknown to a comparison that denies equality, and memory
    says that it is something else than the operand. -/
theorem nullColumn_unknown_to_denial :
    ∃ text e, Condition.toSql .mysql
        { identifier := "name", valueType := .text, operator := .not,
          operand := some (.text "a") } = .sql text ∧
      expression? .mysql "name".toList text.toList = some e ∧
      ¬ (e.truth .mysql ⟨none, byCodePoint, 0, fun _ => none⟩ = some true ↔
        Condition.evaluate ⟨⟨⟨1970, 1, 1, by decide⟩, .midnight⟩, .utc⟩
          { identifier := "name", valueType := .text, operator := .not,
            operand := some (.text "a") } (.plain [("name", .null)]) = .ok true) := by
  refine ⟨"(name <> 'a')", .compare .ne .column (.literal ['a']), rfl, by decide +kernel, ?_⟩
  have hunknown : Expr.truth .mysql ⟨none, byCodePoint, 0, fun _ => none⟩
      (.compare .ne .column (.literal ['a'])) = none := rfl
  rw [hunknown]
  intro hagree
  exact absurd (hagree.mpr rfl) (by decide)

end Sql

end Criteria
