/-
  Criteria/Proofs/Search/TextQueries.lean
  =======================================
  **Tests of texts mean the same in a search engine as in memory.**  Each of them
  is rendered as one leaf for its relation of texts, or as the denial of that
  leaf.  A null is indexed as a missing field: it passes no leaf, so it is
  selected by exactly the denials, which is what memory answers for a null.
-/
import Criteria.Proofs.Evaluation
import Criteria.Proofs.Search.Selection
import Criteria.Renderer

namespace Criteria.Search

/-- The texts that a field with a value is indexed with. -/
def textsOf : Value → List String
  | .text s => [s]
  | _ => []

theorem queryOf?_textTest (zone : Offset) {n : Condition} {kind : MatchKind} {p : String}
    (hop : n.operator.textKind? = some kind) (hp : n.operand = some (.text p)) :
    queryOf? zone n = some (signedLeaf n.operator.isNegated (leafOf n.identifier kind p)) := by
  rcases Operator.family_of_textKind hop with ⟨hf, rfl⟩ | hf
  · simp only [queryOf?, hf, hp, Option.map_some, leafOf]
  · simp only [queryOf?, hf, hp, Option.map_some, Value.literal]

/-- **Tests of texts select the same documents as they select records**, null fields included. -/
theorem textQuery_selects_iff_evaluate (zone : Offset) (m : Moment) {c n : Condition} {r : Record}
    {kind : MatchKind} {v : Value} {x : Indexed}
    (htype : c.valueType = .text ∨ c.valueType = .longText)
    (hop : c.operator.textKind? = some kind) (hn : c.normalized = .ok n)
    (hv : v = .null ∨ ∃ s, v = .text s) (hfield : r.field? c.identifier = some v)
    (hvalues : x.values c.identifier = (textsOf v).map .text) :
    ∃ q, c.toSearch zone = .search q ∧ (selects x q = true ↔ c.evaluate m r = .ok true) := by
  obtain ⟨hid, _, hnop⟩ := Condition.normalized_keeps hn
  have htextual : c.valueType.isTextual = true := by
    rcases htype with h | h <;> rw [h] <;> rfl
  obtain ⟨p, hp⟩ := Condition.operand_of_normalized hn htextual (Operator.arity_of_textKind hop)
  have hsupported : c.isSupported = true := Operator.supports_of_textKind hop htype
  have hnkind : n.operator.textKind? = some kind := by rw [hnop]; exact hop
  have hquery := queryOf?_textTest zone hnkind hp
  rw [hid, hnop] at hquery
  refine ⟨(signedLeaf c.operator.isNegated (leafOf c.identifier kind p)).toJson, ?_, ?_⟩
  · simp [Condition.toSearch, query?, hsupported, hn, hquery]
  · have hcoerced : c.valueType.coerce v = .ok v := by
      rcases hv with rfl | ⟨s, rfl⟩
      · exact ValueType.coerce_null c.valueType
      · exact ValueType.coerce_of_isTextual htextual (by simp)
    rw [selects_signedLeaf, selects_leafOf x c.identifier kind p hvalues,
      Condition.evaluate_eq_holds m hsupported hfield hcoerced hn
        (Condition.panics_of_arity (Operator.arity_of_textKind hop) m v), Except.ok.injEq]
    rcases hv with rfl | ⟨s, rfl⟩
    · rw [Condition.holds_null hnkind, hnop]
      simp [textsOf]
    · rw [Condition.holds_text hnkind hp, hnop]
      simp [textsOf]

/-- A denied pattern of nothing but characters with a meaning, on a missing field. -/
theorem textQuery_selects_iff_evaluate_missing :
    ∃ q, Condition.toSearch .utc
        { identifier := "body", valueType := .longText, operator := .notContains,
          operand := some (.text "*?\\") } = .search q ∧
      (selects ⟨fun _ => [], fun _ _ => false⟩ q = true ↔
        Condition.evaluate ⟨⟨⟨1970, 1, 1, by decide⟩, .midnight⟩, .utc⟩
          { identifier := "body", valueType := .longText, operator := .notContains,
            operand := some (.text "*?\\") } (.plain [("body", .null)]) = .ok true) :=
  textQuery_selects_iff_evaluate .utc _ (.inr rfl) rfl rfl (.inl rfl) rfl rfl

end Criteria.Search
