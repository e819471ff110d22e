/-
  Criteria/Proofs/NormalForms.lean
  ================================
  **Only the normal form of a condition matters.**  Memory, relational stores and
  search engines look at a condition through its normal form, and of that at
  everything but the secondary operand.  Two conditions on one field that compare
  it in one way with one operand are therefore the same to all of them, however
  their operands were spelled; and so are two records in which the field is read
  as one value.
-/
import Criteria.Proofs.Answers

namespace Criteria

namespace Condition

/-! ### What is read of a normal form -/

/-- A condition without its secondary operand. -/
def bare (c : Condition) : Condition := { c with secondary := none }

theorem holds_bare (n : Condition) (m : Moment) (field : Value) :
    n.bare.holds m field = n.holds m field := rfl

theorem clauseOf?_bare (n : Condition) : Sql.clauseOf? n.bare = Sql.clauseOf? n := rfl

theorem queryOf?_bare (n : Condition) (zone : Offset) :
    Search.queryOf? zone n.bare = Search.queryOf? zone n := rfl

theorem clause?_of_normalized {c n : Condition} (h : c.normalized = .ok n) :
    Sql.clause? c = if c.isSupported then Sql.clauseOf? n else none := by
  simp only [Sql.clause?, h]

theorem query?_of_normalized {c n : Condition} (h : c.normalized = .ok n) (zone : Offset) :
    Search.query? zone c = if c.isSupported then Search.queryOf? zone n else none := by
  simp only [Search.query?, h]

/-! ### Two conditions with one normal form -/

/-- Conditions on one field, of one type, with one operator. -/
structure Alike (c c' : Condition) : Prop where
  identifier : c'.identifier = c.identifier
  valueType : c'.valueType = c.valueType
  operator : c'.operator = c.operator

section

variable {c c' n n' : Condition} (halike : c.Alike c') (hn : c.normalized = .ok n)
  (hn' : c'.normalized = .ok n') (hoperand : n'.operand = n.operand)

theorem isSupported_of_alike (halike : c.Alike c') : c'.isSupported = c.isSupported := by
  rw [isSupported, isSupported, halike.valueType, halike.operator]

include halike hn hn' hoperand

theorem bare_eq_bare : n'.bare = n.bare := by
  obtain ⟨hid, htype, hop⟩ := normalized_keeps hn
  obtain ⟨hid', htype', hop'⟩ := normalized_keeps hn'
  have hids := hid'.trans (halike.identifier.trans hid.symm)
  have htypes := htype'.trans (halike.valueType.trans htype.symm)
  have hops := hop'.trans (halike.operator.trans hop.symm)
  rw [bare, bare, hids, htypes, hops, hoperand]

theorem evaluate_eq_of_alike (m : Moment) {r r' : Record} {v v' w : Value}
    (hv : r.field? c.identifier = some v) (hv' : r'.field? c.identifier = some v')
    (hw : c.valueType.coerce v = .ok w) (hw' : c.valueType.coerce v' = .ok w) :
    c'.evaluate m r' = c.evaluate m r := by
  cases hs : c.isSupported with
  | false =>
    have hs' := (isSupported_of_alike halike).trans hs
    rw [evaluate_of_not_isSupported hs, evaluate_of_not_isSupported hs', halike.identifier,
      halike.valueType, halike.operator]
  | true =>
    have hs' := (isSupported_of_alike halike).trans hs
    rw [← halike.identifier] at hv'
    rw [← halike.valueType] at hw'
    have hpanics : c'.panics m w = c.panics m w := by
      cases w <;> simp only [panics, halike.operator]
    rw [evaluate_of_parts m hs hv hw hn, evaluate_of_parts m hs' hv' hw' hn', hpanics,
      ← holds_bare n', bare_eq_bare halike hn hn' hoperand, holds_bare]

theorem toSql_eq_of_alike (d : Sql.Dialect) : c'.toSql d = c.toSql d := by
  have hclause : Sql.clause? c' = Sql.clause? c := by
    rw [clause?_of_normalized hn, clause?_of_normalized hn', isSupported_of_alike halike,
      ← clauseOf?_bare n', bare_eq_bare halike hn hn' hoperand, clauseOf?_bare]
  rw [toSql, toSql, hclause]

theorem toSearch_eq_of_alike (zone : Offset) : c'.toSearch zone = c.toSearch zone := by
  have hquery : Search.query? zone c' = Search.query? zone c := by
    rw [query?_of_normalized hn, query?_of_normalized hn', isSupported_of_alike halike,
      ← queryOf?_bare n', bare_eq_bare halike hn hn' hoperand, queryOf?_bare]
  rw [toSearch, toSearch, hquery]

end

/-- **Only the normal form of a condition matters.**  It is its own normal form; it has no operands
    under a nullary operator, and under any other an operand that is native to the value type.  A
    condition like it, whose normal form has the same operand, has the same answer in memory on
    any record whose field is read as the same value, and the same fragments. -/
theorem normalForm_decides {c n : Condition} (h : c.normalized = .ok n) :
    n.normalized = .ok n ∧
    (c.operator.arity = .nullary → n.operand = none ∧ n.secondary = none) ∧
    (c.operator.arity ≠ .nullary →
      ∃ w, n.operand = some w ∧ w ≠ .null ∧ c.valueType.isNative w = true) ∧
    ∀ c' n', c.Alike c' → c'.normalized = .ok n' → n'.operand = n.operand →
      (∀ (m : Moment) (r r' : Record) (v v' w : Value), r.field? c.identifier = some v →
        r'.field? c.identifier = some v' → c.valueType.coerce v = .ok w →
        c.valueType.coerce v' = .ok w → c'.evaluate m r' = c.evaluate m r) ∧
      (∀ d, c'.toSql d = c.toSql d) ∧
      ∀ zone, c'.toSearch zone = c.toSearch zone := by
  refine ⟨normalized_normalized h, ?_, ?_, ?_⟩
  · intro ha
    rw [normalized_of_nullary ha] at h
    rw [← Except.ok.inj h]
    exact ⟨rfl, rfl⟩
  · intro ha
    obtain ⟨w, hw, hnative⟩ := isNative_of_normalized h ha
    exact ⟨w, hw, ValueType.ne_null_of_isNative hnative, hnative⟩
  · intro c' n' halike hn' hoperand
    refine ⟨?_, ?_, ?_⟩
    · intro m r r' v v' w hv hv' hw hw'
      exact evaluate_eq_of_alike halike h hn' hoperand m hv hv' hw hw'
    · intro d
      exact toSql_eq_of_alike halike h hn' hoperand d
    · intro zone
      exact toSearch_eq_of_alike halike h hn' hoperand zone

/-- A number that is spelled out bounds a field as the number itself does, whatever stands beside
    it, and the field may be spelled out too. -/
theorem normalForm_decides_spelling :
    evaluate ⟨⟨⟨1970, 1, 1, by decide⟩, .midnight⟩, .utc⟩
        { identifier := "n", valueType := .numeric, operator := .lessThan,
          operand := some (.text " 1e0 "), secondary := some (.text "2") }
        (.plain [("n", .text "+5e-1")]) =
      evaluate ⟨⟨⟨1970, 1, 1, by decide⟩, .midnight⟩, .utc⟩
        { identifier := "n", valueType := .numeric, operator := .lessThan,
          operand := some (.number (.ofInt 1)) }
        (.json [("n", .float (.ofRatio false 1 2))]) := by
  have hn : normalized
      { identifier := "n", valueType := .numeric, operator := .lessThan,
        operand := some (.number (.ofInt 1)) } =
      .ok { identifier := "n", valueType := .numeric, operator := .lessThan,
            operand := some (.number (.ofInt 1)) } := by decide +kernel
  have hn' : normalized
      { identifier := "n", valueType := .numeric, operator := .lessThan,
        operand := some (.text " 1e0 "), secondary := some (.text "2") } =
      .ok { identifier := "n", valueType := .numeric, operator := .lessThan,
            operand := some (.number (.ofInt 1)), secondary := some (.number (.ofInt 2)) } := by
    decide +kernel
  have halike : Alike
      { identifier := "n", valueType := .numeric, operator := .lessThan,
        operand := some (.number (.ofInt 1)) }
      { identifier := "n", valueType := .numeric, operator := .lessThan,
        operand := some (.text " 1e0 "), secondary := some (.text "2") } := ⟨rfl, rfl, rfl⟩
  have hfield : ValueType.coerce .numeric (.number (.ofRatio false 1 2)) =
      .ok (.number (.ofRatio false 1 2)) := by decide +kernel
  have hfield' : ValueType.coerce .numeric (.text "+5e-1") =
      .ok (.number (.ofRatio false 1 2)) := by decide +kernel
  obtain ⟨-, -, -, hdecides⟩ := normalForm_decides hn
  obtain ⟨hmemory, -, -⟩ := hdecides _ _ halike hn' rfl
  exact hmemory _ _ _ _ _ _ rfl rfl hfield hfield'

end Condition

end Criteria
