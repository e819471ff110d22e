/-
  Criteria/Proofs/NullChecks.lean
  ===============================
  **Where the two null checks overlap.**  On every target one of `IS_NULL` and
  `IS_NOT_NULL` holds, and in memory exactly one does.  For the text types a
  relational store and a search engine count the empty text as null besides, and
  there only `IS_NULL` knows of it: a comparison with the empty text that is joined
  to `IS NOT NULL` by `OR` takes nothing away, and `exists` asks for no more than a
  value.  So an empty text passes both checks, and nothing else does.
-/
import Criteria.Proofs.Answers
import Criteria.Proofs.Condition.Denial
import Criteria.Proofs.Search.Selection
import Criteria.Proofs.Sql.NullColumn
import Criteria.Proofs.Sql.TextTests

namespace Criteria

/-! ### In memory -/

namespace Condition

variable (c : Condition) {o : Operator} (ho : o.isNullCheck = true)

include ho

theorem isSupported_nullCheck : (c.withOperator o).isSupported = true := by
  simp only [isSupported, withOperator_operator, withOperator_valueType, Operator.supports,
    Operator.valueTypes, Operator.family_of_isNullCheck ho]
  cases c.valueType <;> rfl

theorem normalized_nullCheck :
    (c.withOperator o).normalized = .ok (nullary c.identifier c.valueType o) := by
  have harity : o.arity = .nullary := by rw [Operator.arity, Operator.family_of_isNullCheck ho]
  exact normalized_of_nullary harity

theorem evaluate_nullCheck (m : Moment) {r : Record} {v w : Value}
    (hv : r.field? c.identifier = some v) (hw : c.valueType.coerce v = .ok w) :
    (c.withOperator o).evaluate m r = .ok (w.isNull != o.isNegated) := by
  have hcalm : (c.withOperator o).panics m w = false :=
    panics_of_family (by simp [Operator.family_of_isNullCheck ho]) m w
  rw [evaluate_eq_holds m (isSupported_nullCheck c ho) hv hw (normalized_nullCheck c ho) hcalm]
  simp only [holds, nullary, Operator.family_of_isNullCheck ho]

end Condition

/-! ### In a relational store -/

namespace Sql

variable {row : Row}

theorem truth_null_eq_true (d : Dialect) (negated : Bool) :
    ((Atom.null negated).expr d).truth d row = some true ↔
      (row.value = none ↔ negated = false) := by
  cases hrow : row.value with
  | none => simp [truth_null_of_null hrow]
  | some x => simp [Atom.expr, Expr.truth, Expr.eval, hrow, Datum.isNull, Datum.truth?]

/-- A comparison is true of a column only if the column has a value. -/
theorem truth_compare_eq_true (d : Dialect) (k : Comparison) (l : List Char) :
    ((Atom.compare k l).expr d).truth d row = some true ↔
      ∃ x, row.value = some x ∧ k.accepts (row.order x l) = true := by
  cases hrow : row.value with
  | none => simp [truth_atom_of_null hrow d (a := .compare k l) (by simp)]
  | some x => simp [truth_compare d hrow]

theorem isNullClause_truth (d : Dialect) (column : String) (foldsEmpty : Bool) :
    ∃ e, (nullClause column false foldsEmpty).expr? d = some e ∧ ∀ row,
      (e.truth d row = some true ↔ row.value = none ∨
        (foldsEmpty = true ∧ ∃ x, row.value = some x ∧ row.order x [] = .eq)) := by
  cases foldsEmpty with
  | false => exact ⟨(Atom.null false).expr d, rfl, fun row => by simp [truth_null_eq_true]⟩
  | true =>
    refine ⟨.or ((Atom.null false).expr d) ((Atom.compare .eq []).expr d), rfl, fun row => ?_⟩
    rw [Expr.truth_or, Truth.or_eq_true, truth_null_eq_true, truth_compare_eq_true]
    simp [Comparison.accepts]

/-- The comparison with the empty text adds nothing to a check that there is a value. -/
theorem isNotNullClause_truth (d : Dialect) (column : String) (foldsEmpty : Bool) :
    ∃ e, (nullClause column true foldsEmpty).expr? d = some e ∧ ∀ row,
      (e.truth d row = some true ↔ row.value ≠ none) := by
  cases foldsEmpty with
  | false => exact ⟨(Atom.null true).expr d, rfl, fun row => by simp [truth_null_eq_true]⟩
  | true =>
    refine ⟨.or ((Atom.null true).expr d) ((Atom.compare .ne []).expr d), rfl, fun row => ?_⟩
    rw [Expr.truth_or, Truth.or_eq_true, truth_null_eq_true, truth_compare_eq_true]
    -- Whatever the second test accepts has a value, and passes the first.
    constructor
    · rintro (hnull | ⟨x, hx, _⟩)
      · simpa using hnull
      · simp [hx]
    · intro hrow
      exact .inl (by simpa using hrow)

/-- **In a relational store some null check is true of every column**, and both are true of just the
    empty texts that count as null. -/
theorem toSql_nullChecks (d : Dialect) (c : Condition) :
    ∃ text text' e e', Rendered d (c.withOperator .isNull) text e ∧
      Rendered d (c.withOperator .isNotNull) text' e' ∧ ∀ row,
        (e.truth d row = some true ∨ e'.truth d row = some true) ∧
        (e.truth d row = some true ∧ e'.truth d row = some true ↔
          c.valueType.foldsEmpty = true ∧ ∃ x, row.value = some x ∧ row.order x [] = .eq) := by
  obtain ⟨e, he, htruth⟩ := isNullClause_truth d c.identifier c.valueType.foldsEmpty
  obtain ⟨e', he', htruth'⟩ := isNotNullClause_truth d c.identifier c.valueType.foldsEmpty
  have hrendered := rendered_of_clauseOf? (Condition.isSupported_nullCheck c (o := .isNull) rfl)
    (Condition.normalized_nullCheck c rfl) rfl he
  have hrendered' := rendered_of_clauseOf? (Condition.isSupported_nullCheck c (o := .isNotNull) rfl)
    (Condition.normalized_nullCheck c rfl) rfl he'
  refine ⟨_, _, e, e', hrendered, hrendered', fun row => ⟨?_, ?_⟩⟩
  · rw [htruth, htruth']
    by_cases hrow : row.value = none
    · exact .inl (.inl hrow)
    · exact .inr hrow
  · rw [htruth, htruth']
    constructor
    · rintro ⟨hnull | hempty, hvalue⟩
      · exact absurd hnull hvalue
      · exact hempty
    · rintro ⟨hfolds, x, hx, hempty⟩
      exact ⟨.inr ⟨hfolds, x, hx, hempty⟩, by simp [hx]⟩

end Sql

/-! ### In a search engine -/

namespace Search

theorem selects_present (x : Indexed) (field : String) :
    selects x (Query.present field).toJson = !(x.values field).isEmpty := by
  simp [Query.toJson, Json.keyed, selects, fieldHolds]

/-- Of all values only the empty text equals the empty text; a date-time is never written so. -/
theorem leafHolds_empty (w : Value) :
    leafHolds "term" w (.string "") = true ↔ w = .text "" := by
  cases w with
  | null | number x => simp [leafHolds]
  | text s => simp [leafHolds]
  | time t =>
    have htext : String.ofList t.text ≠ "" := by
      intro h
      have hnil : t.text = [] := by simpa using congrArg String.toList h
      simp [DateTime.text, DateTime.textWith] at hnil
    simp [leafHolds, htext]

theorem selects_isNullQuery (x : Indexed) (field : String) (foldsEmpty : Bool) :
    selects x (nullQuery field false foldsEmpty).toJson = true ↔
      x.values field = [] ∨ (foldsEmpty = true ∧ .text "" ∈ x.values field) := by
  have habsent : selects x (Query.noneOf [.present field]).toJson = true ↔
      x.values field = [] := by
    simp [selects_noneOf, selects_present]
  have hempty : selects x (Query.term field (.text "")).toJson = true ↔
      .text "" ∈ x.values field := by
    rw [Query.toJson, selects_leaf x (by decide)]
    simp only [valueJson, List.any_eq_true, leafHolds_empty]
    constructor
    · rintro ⟨w, hw, rfl⟩
      exact hw
    · intro hw
      exact ⟨_, hw, rfl⟩
  cases foldsEmpty with
  | false => simpa [nullQuery] using habsent
  | true => simp [nullQuery, selects_anyOf, habsent, hempty]

/-- **In a search engine some null check selects every record**, and both select just the records
    with an empty text that counts as null. -/
theorem toSearch_nullChecks (zone : Offset) (c : Condition) :
    ∃ doc doc', (c.withOperator .isNull).toSearch zone = .search doc ∧
      (c.withOperator .isNotNull).toSearch zone = .search doc' ∧ ∀ x,
        (selects x doc = true ∨ selects x doc' = true) ∧
        (selects x doc = true ∧ selects x doc' = true ↔
          c.valueType.foldsEmpty = true ∧ .text "" ∈ x.values c.identifier) := by
  have hquery : ∀ o : Operator, o.isNullCheck = true → (c.withOperator o).toSearch zone =
      .search (nullQuery c.identifier o.isNegated c.valueType.foldsEmpty).toJson := by
    intro o ho
    refine toSearch_of_queryOf? (Condition.isSupported_nullCheck c ho)
      (Condition.normalized_nullCheck c ho) ?_
    simp only [queryOf?, Condition.nullary, Operator.family_of_isNullCheck ho]
  refine ⟨_, _, hquery .isNull rfl, hquery .isNotNull rfl, fun x => ?_⟩
  have hpresent : selects x (nullQuery c.identifier true c.valueType.foldsEmpty).toJson = true ↔
      x.values c.identifier ≠ [] := by
    simp [nullQuery, selects_present]
  rw [show Operator.isNegated .isNull = false from rfl,
    show Operator.isNegated .isNotNull = true from rfl, selects_isNullQuery, hpresent]
  refine ⟨?_, ?_⟩
  · by_cases habsent : x.values c.identifier = []
    · exact .inl (.inl habsent)
    · exact .inr habsent
  · constructor
    · rintro ⟨habsent | hempty, hvalue⟩
      · exact absurd habsent hvalue
      · exact hempty
    · rintro ⟨hfolds, hmem⟩
      exact ⟨.inr ⟨hfolds, hmem⟩, List.ne_nil_of_mem hmem⟩

end Search

/-! ### All targets -/

namespace Condition

/-- **The two null checks are exhaustive on every target, and exclusive but for empty texts.**  In
    memory they have opposite answers on every field that can be read.  A relational store and a
    search engine render both, and one at least holds of every column and of every record.  Both
    hold exactly of the empty texts of the types that count an empty text as null. -/
theorem nullChecks_overlap (c : Condition) :
    (∀ m r v w, r.field? c.identifier = some v → c.valueType.coerce v = .ok w →
      ∃ b, (c.withOperator .isNull).evaluate m r = .ok b ∧
        (c.withOperator .isNotNull).evaluate m r = .ok !b) ∧
    (∀ d, ∃ text text' e e', Sql.Rendered d (c.withOperator .isNull) text e ∧
      Sql.Rendered d (c.withOperator .isNotNull) text' e' ∧ ∀ row,
        (e.truth d row = some true ∨ e'.truth d row = some true) ∧
        (e.truth d row = some true ∧ e'.truth d row = some true ↔
          c.valueType.foldsEmpty = true ∧ ∃ x, row.value = some x ∧ row.order x [] = .eq)) ∧
    (∀ zone, ∃ doc doc', (c.withOperator .isNull).toSearch zone = .search doc ∧
      (c.withOperator .isNotNull).toSearch zone = .search doc' ∧ ∀ x,
        (Search.selects x doc = true ∨ Search.selects x doc' = true) ∧
        (Search.selects x doc = true ∧ Search.selects x doc' = true ↔
          c.valueType.foldsEmpty = true ∧ .text "" ∈ x.values c.identifier)) := by
  refine ⟨?_, ?_, ?_⟩
  · intro m r v w hv hw
    refine ⟨w.isNull, ?_, ?_⟩
    · rw [evaluate_nullCheck c rfl m hv hw]
      simp [Operator.isNegated]
    · rw [evaluate_nullCheck c rfl m hv hw]
      simp [Operator.isNegated]
  · intro d
    exact Sql.toSql_nullChecks d c
  · intro zone
    exact Search.toSearch_nullChecks zone c

/-- A blank text is no empty text: each target has one answer to the two checks. -/
theorem nullChecks_overlap_blank :
    ∃ b e e', Condition.evaluate ⟨⟨⟨1970, 1, 1, by decide⟩, .midnight⟩, .utc⟩
        (nullary "name" .text .isNull) (.plain [("name", .text " ")]) = .ok b ∧
      Sql.expression? .mysql "name".toList "(name IS NULL OR name = '')".toList = some e ∧
      Sql.expression? .mysql "name".toList "(name IS NOT NULL OR name <> '')".toList = some e' ∧
      ¬ (e.truth .mysql ⟨some [' '], Sql.byCodePoint, 0, fun _ => none⟩ = some true ∧
        e'.truth .mysql ⟨some [' '], Sql.byCodePoint, 0, fun _ => none⟩ = some true) := by
  have hcol : Sql.IsColumn "name".toList := by decide
  obtain ⟨hmemory, hsql, _⟩ := nullChecks_overlap (nullary "name" .text .isNull)
  have hfield : Record.field? (.plain [("name", .text " ")]) "name" = some (.text " ") := rfl
  have hcoerce : ValueType.text.coerce (.text " ") = .ok (.text " ") := rfl
  obtain ⟨b, hb, _⟩ := hmemory ⟨⟨⟨1970, 1, 1, by decide⟩, .midnight⟩, .utc⟩ _ _ _ hfield hcoerce
  obtain ⟨text, text', e, e', hread, hread', hrows⟩ := hsql .mysql
  obtain rfl := Fragment.sql.inj hread.rendered
  obtain rfl := Fragment.sql.inj hread'.rendered
  refine ⟨b, e, e', hb, hread.read hcol, hread'.read hcol, ?_⟩
  rw [(hrows _).2]
  rintro ⟨_, x, hx, hempty⟩
  obtain rfl := Option.some.inj hx
  exact absurd hempty (by decide)

/-- **Not exclusive.**  Both checks are true of a column with an empty text. -/
theorem nullChecks_both_of_empty :
    ∃ text text' e e', Condition.toSql .mysql (nullary "name" .text .isNull) = .sql text ∧
      Condition.toSql .mysql (nullary "name" .text .isNotNull) = .sql text' ∧
      Sql.expression? .mysql "name".toList text.toList = some e ∧
      Sql.expression? .mysql "name".toList text'.toList = some e' ∧
      e.truth .mysql ⟨some [], Sql.byCodePoint, 0, fun _ => none⟩ = some true ∧
      e'.truth .mysql ⟨some [], Sql.byCodePoint, 0, fun _ => none⟩ = some true := by
  refine ⟨"(name IS NULL OR name = '')", "(name IS NOT NULL OR name <> '')",
    .or (.isNull false .column) (.compare .eq .column (.literal [])),
    .or (.isNull true .column) (.compare .ne .column (.literal [])), rfl, rfl, ?_, ?_, rfl, rfl⟩
  · decide +kernel
  · decide +kernel

end Condition

end Criteria
