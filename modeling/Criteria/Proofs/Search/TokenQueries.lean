/-
  Criteria/Proofs/Search/TokenQueries.lean
  ========================================
  **Tests of tokens mean the same in a search engine as in memory.**  In memory
  such a test asks, token of the field by token of the field, whether some token
  of the operand stands in the operator's relation to it.  In a search engine the
  tokens of the field are its values; the document has one leaf for each token of
  the operand, and every leaf is asked of all values.  The two run through the
  same pairs, in a different order, and the denial stands outside of both.
-/
import Criteria.Proofs.Evaluation
import Criteria.Proofs.Search.Selection
import Criteria.Renderer

namespace Criteria

/-! ### In memory -/

theorem Operator.family_of_isMultiValue {o : Operator} (h : o.isMultiValue = true) :
    ∃ kind, o.family = .anyToken kind := by
  unfold isMultiValue at h
  cases hf : o.family with
  | anyToken kind => exact ⟨kind, rfl⟩
  | nullCheck | equality | ordering => simp [hf] at h
  | relativeDay days => simp [hf] at h
  | substring kind => simp [hf] at h

theorem Condition.tokens_of_operand {n : Condition} {p : String} (hp : n.operand = some (.text p)) :
    n.tokens = Criteria.tokens p := by
  rw [tokens, hp]

/-- The values that a field with a value is indexed with: the tokens of a text, and none for a
    null. -/
def indexedTokens : Value → List String
  | .text s => tokens s
  | _ => []

/-- Whether the tokens that a field is indexed with hold one that stands in the relation to a token
    of the operand, or none where that is asked. -/
theorem Condition.holds_anyToken {n : Condition} {kind : MatchKind} {p : String} {v : Value}
    (hf : n.operator.family = .anyToken kind) (hp : n.operand = some (.text p))
    (hv : v = .null ∨ ∃ s, v = .text s) (m : Moment) :
    n.holds m v = (((indexedTokens v).any fun s => n.tokens.any fun t => kind.holds s t) !=
      n.operator.isNegated) := by
  rcases hv with rfl | ⟨s, rfl⟩
  · have hcheck : n.operator.isNullCheck = false := by
      simp [Operator.isNullCheck, hf, beq_eq_decide]
    rw [holds_of_null, hcheck]
    rfl
  · have hoperand : n.operand.getD .null = .text p := by rw [hp, Option.getD_some]
    rw [tokens_of_operand hp]
    simp only [holds, hf, hoperand, textsRelate, anyTokenPair, indexedTokens]

namespace Search

/-! ### In a search engine -/

variable (x : Indexed) {texts : List String}

theorem any_selects_leafOf (field : String) (kind : MatchKind) (ts : List String)
    (hvalues : x.values field = texts.map .text) :
    ((ts.map (leafOf field kind)).any fun q => selects x q.toJson) =
      texts.any fun s => ts.any fun t => kind.holds s t := by
  rw [List.any_map, Bool.eq_iff_iff]
  simp only [List.any_eq_true, Function.comp_apply, selects_leafOf x field kind _ hvalues]
  -- The leaves come first here, and the values of the field in memory.
  constructor
  · rintro ⟨t, ht, s, hs, hst⟩
    exact ⟨s, hs, t, ht, hst⟩
  · rintro ⟨s, hs, t, ht, hst⟩
    exact ⟨t, ht, s, hs, hst⟩

/-- A query for tokens exists if there is a token, and it combines its leaves as the sign asks. -/
theorem tokenQuery?_selects (field : String) (kind : MatchKind) (negated : Bool)
    {ts : List String} (hts : ts ≠ []) (hvalues : x.values field = texts.map .text) :
    ∃ q, tokenQuery? field kind negated ts = some q ∧
      selects x q.toJson = ((texts.any fun s => ts.any fun t => kind.holds s t) != negated) := by
  have hany := any_selects_leafOf x field kind ts hvalues
  cases negated with
  | false =>
    refine ⟨.anyOf (ts.map (leafOf field kind)), ?_, ?_⟩
    · simp [tokenQuery?, hts]
    · rw [selects_anyOf, hany, Bool.bne_false]
  | true =>
    refine ⟨.noneOf (ts.map (leafOf field kind)), ?_, ?_⟩
    · simp [tokenQuery?, hts]
    · rw [selects_noneOf, hany, Bool.bne_true]

/-- **Tests of tokens select the same documents as they select records**, for every relation and
    either sign, and null fields included. -/
theorem tokenQuery_selects_iff_evaluate (zone : Offset) (m : Moment) {c n : Condition} {r : Record}
    {v : Value} {x : Indexed} (htype : c.valueType = .commaSplit)
    (hop : c.operator.isMultiValue = true) (hn : c.normalized = .ok n) (htokens : n.tokens ≠ [])
    (hv : v = .null ∨ ∃ s, v = .text s) (hfield : r.field? c.identifier = some v)
    (hvalues : x.values c.identifier = (indexedTokens v).map .text) :
    ∃ q, c.toSearch zone = .search q ∧ (selects x q = true ↔ c.evaluate m r = .ok true) := by
  obtain ⟨kind, hf⟩ := Operator.family_of_isMultiValue hop
  obtain ⟨hid, _, hnop⟩ := Condition.normalized_keeps hn
  have hnf : n.operator.family = .anyToken kind := by rw [hnop, hf]
  have htextual : c.valueType.isTextual = true := by rw [htype]; rfl
  have harity : c.operator.arity ≠ .nullary := by simp [Operator.arity, hf]
  obtain ⟨p, hp⟩ := Condition.operand_of_normalized hn htextual harity
  have hsupported : c.isSupported = true := by
    simp [Condition.isSupported, Operator.supports, Operator.valueTypes, hf, htype]
  have hcoerced : c.valueType.coerce v = .ok v := ValueType.coerce_eq_self htextual hv
  obtain ⟨q, hq, hselects⟩ :=
    tokenQuery?_selects x c.identifier kind n.operator.isNegated htokens hvalues
  have hquery : queryOf? zone n = some q := by simp only [queryOf?, hnf, hid, hq]
  refine ⟨q.toJson, ?_, ?_⟩
  · simp [Condition.toSearch, query?, hsupported, hn, hquery]
  · rw [hselects, Condition.evaluate_eq_holds m hsupported hfield hcoerced hn
      (Condition.panics_of_arity harity m v), Condition.holds_anyToken hnf hp hv, Except.ok.injEq]

/-- Tokens with characters that a pattern would read as its own, denied, on a field of which one
    token ends in such a character. -/
theorem tokenQuery_selects_iff_evaluate_denied :
    ∃ q, Condition.toSearch .utc
        { identifier := "tags", valueType := .commaSplit, operator := .suffixNotContainsAny,
          operand := some (.text "?, b*\\") } = .search q ∧
      (selects ⟨fun _ => [.text "a", .text "b*\\"], fun _ _ => false⟩ q = true ↔
        Condition.evaluate ⟨⟨⟨1970, 1, 1, by decide⟩, .midnight⟩, .utc⟩
          { identifier := "tags", valueType := .commaSplit, operator := .suffixNotContainsAny,
            operand := some (.text "?, b*\\") }
          (.plain [("tags", .text " a,, b*\\")]) = .ok true) := by
  have htokens : Condition.tokens
      { identifier := "tags", valueType := .commaSplit, operator := .suffixNotContainsAny,
        operand := some (.text "?, b*\\") } ≠ [] := by decide +kernel
  have hvalues : indexedTokens (.text " a,, b*\\") = ["a", "b*\\"] := by decide +kernel
  refine tokenQuery_selects_iff_evaluate .utc _ rfl rfl rfl htokens (.inr ⟨_, rfl⟩) rfl ?_
  rw [hvalues]
  rfl

end Search

end Criteria
