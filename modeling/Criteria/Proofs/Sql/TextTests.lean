/-
  Criteria/Proofs/Sql/TextTests.lean
  ==================================
  **Tests of texts mean the same in a relational store as in memory.**  The
  operand of a pattern test is escaped twice, once for the pattern and once for
  the literal.  The literal gives the pattern back (`expression?_text`), and the
  pattern is read, in the pattern language that the dialect and the clause settle
  between them, as the operand itself with a wildcard at each end that the
  operator leaves open (`read_patternOf`).

  A store is taken to compare texts by their code points.
-/
import Criteria.Proofs.Evaluation
import Criteria.Proofs.Sql.Outline
import Criteria.Proofs.Sql.Readback

namespace Criteria.Sql

/-! ### Patterns -/

/-- The pattern language in which the pattern for a text is read. -/
def likeLanguage (d : Dialect) (raw : List Char) : Wildcard.Language :=
  patternLanguage d (if d = .sqlite ∧ hasWildcard raw = true then some ['\\'] else none)

/-- Either backslash escapes, or there is nothing to escape. -/
theorem likeLanguage_escape (d : Dialect) (raw : List Char) :
    (likeLanguage d raw).escape = some '\\' ∨
      (likeLanguage d raw).escape = none ∧ hasWildcard raw = false := by
  cases hw : hasWildcard raw with
  | true =>
    left
    cases d <;> simp [likeLanguage, patternLanguage, hw]
  | false =>
    cases d with
    | mysql | postgresql =>
      left
      simp [likeLanguage, patternLanguage]
    | sqlite =>
      right
      simp [likeLanguage, patternLanguage, hw]

/-- **An escaped text stands for itself in the pattern**, whatever follows it. -/
theorem read_escapedText (d : Dialect) (raw rest : List Char) :
    (likeLanguage d raw).read (raw.flatMap escapePattern ++ rest) =
      raw.map .exactly ++ (likeLanguage d raw).read rest := by
  rcases likeLanguage_escape d raw with hescape | ⟨hescape, hplain⟩
  · refine Wildcard.Language.read_escaped _ hescape escapePattern (fun c => ?_) raw rest
    by_cases hc : c = '\\' ∨ c = '%' ∨ c = '_'
    · left
      rw [escapePattern, if_pos hc]
    · right
      refine ⟨escapePattern_of_ne hc, ?_⟩
      simp only [not_or] at hc
      refine ⟨hc.2.1, hc.2.2, ?_⟩
      rw [hescape]
      exact fun heq => hc.1 (Option.some.inj heq).symm
  · have hbody : raw.flatMap escapePattern = raw := by
      have h := flatMap_escapePattern_ne raw
      rw [hplain] at h
      simpa using h
    rw [hbody]
    refine Wildcard.Language.read_allPlain _ (fun c hc => ?_) rest
    have hne : ¬ (c = '\\' ∨ c = '%' ∨ c = '_') := by
      intro hspecial
      have hany : hasWildcard raw = true := by
        rw [hasWildcard, List.any_eq_true]
        exact ⟨c, hc, by simpa [or_assoc] using hspecial⟩
      rw [hplain] at hany
      exact absurd hany (by decide)
    simp only [not_or] at hne
    refine ⟨hne.2.1, hne.2.2, ?_⟩
    rw [hescape]
    simp

/-- **The pattern for a text is read as the text**, open at the ends that the relation leaves
    open. -/
theorem read_patternOf (d : Dialect) (kind : MatchKind) (raw : List Char) :
    (likeLanguage d raw).read (patternOf kind raw) = Wildcard.symbolsFor kind raw := by
  have hmany : ∀ rest, (likeLanguage d raw).read ('%' :: rest) =
      .anyText :: (likeLanguage d raw).read rest := by
    intro rest
    refine (Wildcard.Language.read_cons _ ?_ rest).trans rfl
    rcases likeLanguage_escape d raw with hescape | ⟨hescape, _⟩
    · rw [hescape]
      decide
    · rw [hescape]
      simp
  have hbody := read_escapedText d raw []
  rw [List.append_nil] at hbody
  cases kind with
  | exact => rw [patternOf, hbody, Wildcard.Language.read, List.append_nil, Wildcard.symbolsFor]
  | leading => rw [patternOf, read_escapedText, hmany, Wildcard.Language.read, Wildcard.symbolsFor]
  | trailing =>
    rw [patternOf, hmany, hbody, Wildcard.Language.read, List.append_nil, Wildcard.symbolsFor]
  | within =>
    rw [patternOf, hmany, read_escapedText, hmany, Wildcard.Language.read, Wildcard.symbolsFor]

/-! ### The truth of a test of a text -/

section

variable {row : Row} {x : List Char}

theorem truth_compare (d : Dialect) (hvalue : row.value = some x) (c : Comparison)
    (l : List Char) :
    ((Atom.compare c l).expr d).truth d row = some (c.accepts (row.order x l)) := by
  simp [Atom.expr, Expr.truth, Expr.eval, hvalue, Datum.order?]

/-- The sign of a comparison admits what its operator admits. -/
theorem accepts_comparisonOf {o : Operator} (hop : o.Compares) (r : Ordering) :
    (comparisonOf o).accepts r = o.admits r := by
  rcases hop with hf | hf <;> cases o <;> simp only [Operator.family, reduceCtorEq] at hf <;> rfl

theorem truth_like (d : Dialect) (hvalue : row.value = some x) (negated : Bool)
    (kind : MatchKind) (raw : List Char) :
    ((Atom.like negated (patternOf kind raw) (raw.flatMap escapePattern != raw)).expr d).truth d
      row = some (kind.relates x raw != negated) := by
  have hlanguage : patternLanguage d
      (if d = .sqlite ∧ (raw.flatMap escapePattern != raw) = true then some ['\\'] else none) =
        likeLanguage d raw := by
    rw [flatMap_escapePattern_ne, likeLanguage]
  simp only [Atom.expr, Expr.truth, Expr.eval, hvalue, Datum.matches, hlanguage, read_patternOf,
    Wildcard.matches?_symbolsFor, Datum.truth?]

end

/-- The test that a text operator is rendered as. -/
def textAtom (o : Operator) (raw : List Char) : Atom :=
  match o.family with
  | .substring kind => .like o.isNegated (patternOf kind raw) (raw.flatMap escapePattern != raw)
  | _ => .compare (comparisonOf o) raw

theorem clauseOf?_textTest {n : Condition} {kind : MatchKind} {p : String}
    (htype : n.valueType = .text) (hop : n.operator.textKind? = some kind)
    (hp : n.operand = some (.text p)) :
    clauseOf? n = some ⟨n.identifier, .or, [textAtom n.operator p.toList]⟩ := by
  rcases Operator.family_of_textKind hop with ⟨hf, _⟩ | hf
  · simp only [clauseOf?, hf, hp, Option.map_some, textAtom, Value.literal]
  · simp only [clauseOf?, hf, hp, htype, if_true, Option.map_some, textAtom, Value.literal]

theorem truth_textAtom (d : Dialect) {row : Row} {x : List Char} {o : Operator} {kind : MatchKind}
    (hvalue : row.value = some x) (horder : row.order = byCodePoint)
    (hop : o.textKind? = some kind) (raw : List Char) :
    ((textAtom o raw).expr d).truth d row = some (kind.relates x raw != o.isNegated) := by
  rcases Operator.family_of_textKind hop with ⟨hf, rfl⟩ | hf
  · have hequal : (byCodePoint x raw == .eq) = MatchKind.exact.relates x raw := by
      rw [Bool.eq_iff_iff, beq_iff_eq, byCodePoint_eq_iff, MatchKind.relates_exact]
    rw [textAtom, hf]
    simp only
    rw [truth_compare d hvalue, horder, accepts_comparisonOf (.inl hf),
      Operator.admits_of_equality hf, hequal]
  · rw [textAtom, hf]
    exact truth_like d hvalue o.isNegated kind raw

/-- **Tests of texts select the same rows as they select records.**  The rendered text of a
    condition for equality or for a part of a text, read as the dialect reads it, is true of a
    column with a text exactly if the condition holds of a record with that text. -/
theorem textTest_selects_iff_evaluate (d : Dialect) (m : Moment) {c n : Condition} {r : Record}
    {kind : MatchKind} {s : String} {row : Row} (htype : c.valueType = .text)
    (hop : c.operator.textKind? = some kind) (hn : c.normalized = .ok n)
    (hfield : r.field? c.identifier = some (.text s)) (hcol : IsColumn c.identifier.toList)
    (hvalue : row.value = some s.toList) (horder : row.order = byCodePoint) :
    ∃ text e, c.toSql d = .sql text ∧
      expression? d c.identifier.toList text.toList = some e ∧
      (e.truth d row = some true ↔ c.evaluate m r = .ok true) := by
  obtain ⟨hid, hntype, hnop⟩ := Condition.normalized_keeps hn
  have htextual : c.valueType.isTextual = true := by rw [htype]; rfl
  obtain ⟨p, hp⟩ := Condition.operand_of_normalized hn htextual (Operator.arity_of_textKind hop)
  have hsupported : c.isSupported = true := Operator.supports_of_textKind hop (.inl htype)
  have hclause := clauseOf?_textTest (hntype.trans htype) (by rw [hnop]; exact hop) hp
  rw [hid, hnop] at hclause
  refine ⟨Clause.text d ⟨c.identifier, .or, [textAtom c.operator p.toList]⟩,
    (textAtom c.operator p.toList).expr d, ?_, expression?_text d hcol .or _ [], ?_⟩
  · simp [Condition.toSql, clause?, hsupported, hn, hclause]
  · have hcoerced : c.valueType.coerce (.text s) = .ok (.text s) := by rw [htype]; rfl
    have hcalm := Condition.panics_of_arity (Operator.arity_of_textKind hop) m (.text s)
    rw [truth_textAtom d hvalue horder hop, Condition.evaluate_eq_holds m hsupported hfield
      hcoerced hn hcalm, Condition.holds_text (by rw [hnop]; exact hop) hp, hnop]
    simp [MatchKind.holds]

/-- An operand of nothing but a wildcard and an escape, which SQLite has to be told of. -/
theorem textTest_selects_iff_evaluate_wildcards :
    ∃ text e, Condition.toSql .sqlite
        { identifier := "name", valueType := .text, operator := .suffixNotContains,
          operand := some (.text "%\\") } = .sql text ∧
      expression? .sqlite "name".toList text.toList = some e ∧
      (e.truth .sqlite ⟨some "100%\\".toList, byCodePoint, 0, fun _ => none⟩ = some true ↔
        Condition.evaluate ⟨⟨⟨1970, 1, 1, by decide⟩, .midnight⟩, .utc⟩
          { identifier := "name", valueType := .text, operator := .suffixNotContains,
            operand := some (.text "%\\") } (.plain [("name", .text "100%\\")]) = .ok true) := by
  have hcol : IsColumn "name".toList := by decide
  exact textTest_selects_iff_evaluate .sqlite _ rfl rfl rfl rfl hcol rfl rfl

end Criteria.Sql
