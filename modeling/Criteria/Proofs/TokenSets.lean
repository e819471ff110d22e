/-
  Criteria/Proofs/TokenSets.lean
  ==============================
  **Tests of tokens see sets of tokens.**  A test of tokens has an answer for every
  operand that is a text, and the answer says whether a token of the field and a
  token of the operand meet in the operator's relation.  So of either text only the
  set of its tokens matters: their order, their number, the commas and the blanks
  around them do not.  A comma between two texts puts their sets together, on either
  side, and an answer distributes over that as its sign asks.
-/
import Criteria.Proofs.Search.TokenQueries
import Criteria.Proofs.Value.Tokens

namespace Criteria

namespace Operator

theorem matchKind?_of_anyToken {o : Operator} {kind : MatchKind} (h : o.family = .anyToken kind) :
    o.matchKind? = some kind := by
  simp only [matchKind?, h]

/-- Two answers to tests with the same operator put together: one positive answer is enough, and a
    denial has to hold of both. -/
def join (o : Operator) (a b : Bool) : Bool := if o.isNegated then a && b else a || b

theorem join_signed (o : Operator) (a b : Bool) :
    o.join (a != o.isNegated) (b != o.isNegated) = ((a || b) != o.isNegated) := by
  unfold join
  cases o.isNegated <;> cases a <;> cases b <;> rfl

end Operator

/-! ### Tokens that meet -/

/-- Whether a token of the field stands in the relation to a token of the operand; a null has no
    tokens. -/
def tokensMeet (kind : MatchKind) (v : Value) (p : String) : Bool :=
  (indexedTokens v).any fun s => (tokens p).any fun t => kind.holds s t

section

variable {kind : MatchKind} {v : Value} {p : String}

theorem tokensMeet_iff :
    tokensMeet kind v p = true ↔
      ∃ s ∈ indexedTokens v, ∃ t ∈ tokens p, kind.holds s t = true := by
  simp only [tokensMeet, List.any_eq_true]

theorem tokensMeet_congr {v' : Value} {p' : String}
    (hv : ∀ s, s ∈ indexedTokens v ↔ s ∈ indexedTokens v')
    (hp : ∀ t, t ∈ tokens p ↔ t ∈ tokens p') :
    tokensMeet kind v p = tokensMeet kind v' p' := by
  rw [Bool.eq_iff_iff, tokensMeet_iff, tokensMeet_iff]
  simp only [hv, hp]

theorem tokensMeet_operands (a b : String) :
    tokensMeet kind v (a ++ "," ++ b) = (tokensMeet kind v a || tokensMeet kind v b) := by
  rw [Bool.eq_iff_iff, Bool.or_eq_true]
  simp only [tokensMeet_iff, tokens_append_comma, List.mem_append]
  constructor
  · rintro ⟨s, hs, t, ht | ht, hst⟩
    · exact .inl ⟨s, hs, t, ht, hst⟩
    · exact .inr ⟨s, hs, t, ht, hst⟩
  · rintro (⟨s, hs, t, ht, hst⟩ | ⟨s, hs, t, ht, hst⟩)
    · exact ⟨s, hs, t, .inl ht, hst⟩
    · exact ⟨s, hs, t, .inr ht, hst⟩

theorem tokensMeet_fields (x y : String) :
    tokensMeet kind (.text (x ++ "," ++ y)) p =
      (tokensMeet kind (.text x) p || tokensMeet kind (.text y) p) := by
  simp only [tokensMeet, indexedTokens, tokens_append_comma, List.any_append]

theorem tokensMeet_of_none (h : indexedTokens v = [] ∨ tokens p = []) :
    tokensMeet kind v p = false := by
  rw [← Bool.not_eq_true, tokensMeet_iff]
  rintro ⟨s, hs, t, ht, -⟩
  rcases h with h | h
  · rw [h] at hs
    exact List.not_mem_nil hs
  · rw [h] at ht
    exact List.not_mem_nil ht

end

/-! ### Conditions -/

theorem ValueType.coerce_isOk_of_isTextual {t : ValueType} (ht : t.isTextual = true) (v : Value) :
    ∃ w, t.coerce v = .ok w := by
  by_cases hv : v = .null
  · exact ⟨.null, by rw [hv, coerce_null]⟩
  · exact ⟨_, coerce_of_isTextual ht hv⟩

namespace Condition

/-- A record in which the condition's field is null or a text. -/
structure HasTextField (c : Condition) (r : Record) (v : Value) : Prop where
  there : r.field? c.identifier = some v
  textual : v = .null ∨ ∃ s, v = .text s

def withText (c : Condition) (p : String) : Condition := { c with operand := some (.text p) }

theorem second_isOk_of_isTextual {c : Condition} (htextual : c.valueType.isTextual = true) :
    ∃ w, c.second = .ok w := by
  unfold second
  cases hv : c.secondary with
  | none => exact ⟨none, rfl⟩
  | some v =>
    obtain ⟨w, hw⟩ := ValueType.coerce_isOk_of_isTextual htextual v
    exact ⟨some w, by simp only [hw, Except.map]⟩

/-- **A text can always be the operand of a condition on texts.** -/
theorem normalized_withText {c : Condition} (htextual : c.valueType.isTextual = true)
    (harity : c.operator.arity ≠ .nullary) (p : String) :
    ∃ n, (c.withText p).normalized = .ok n ∧ n.operand = some (.text p) := by
  have hfirst : (c.withText p).primary = .ok (.text p) :=
    primary_of_coerce rfl (by simp) (ValueType.coerce_of_isTextual htextual (by simp))
  obtain ⟨w, hw⟩ := second_isOk_of_isTextual (c := c.withText p) htextual
  exact ⟨_, normalized_of_operands harity hfirst hw, rfl⟩

section

variable {c : Condition} (htype : c.valueType = .commaSplit)

include htype

/-- **A test of tokens always has an answer**, and it says whether tokens meet. -/
theorem evaluate_withText {kind : MatchKind} (hf : c.operator.family = .anyToken kind) (m : Moment)
    (p : String) {r : Record} {v : Value} (hv : c.HasTextField r v) :
    (c.withText p).evaluate m r = .ok (tokensMeet kind v p != c.operator.isNegated) := by
  have htextual : c.valueType.isTextual = true := by
    rw [htype]
    rfl
  have harity : c.operator.arity ≠ .nullary := by
    simp [Operator.arity, hf]
  have hsupported : (c.withText p).isSupported = true := by
    simp [withText, isSupported, Operator.supports, Operator.valueTypes, hf, htype]
  obtain ⟨n, hn, hoperand⟩ := normalized_withText htextual harity p
  have hop : n.operator = c.operator := (normalized_keeps hn).2.2
  have hnf : n.operator.family = .anyToken kind := by rw [hop, hf]
  have hcoerced : (c.withText p).valueType.coerce v = .ok v :=
    ValueType.coerce_eq_self htextual hv.textual
  have hcalm : (c.withText p).panics m v = false :=
    panics_of_arity (c := c.withText p) harity m v
  rw [evaluate_eq_holds m hsupported hv.there hcoerced hn hcalm,
    holds_anyToken hnf hoperand hv.textual, hop, tokens_of_operand hoperand]
  rfl

end

/-- **Tests of tokens depend on sets of tokens alone.**  Take a field that is null or a text and an
    operand that is a text.  There is always an answer: the positive test holds exactly if a token
    of the field stands in the operator's relation to a token of the operand, the denial exactly if
    not.  Other texts with the same tokens get the same answer, the field's or the operand's.  With
    a comma between two operands, or between two fields, the positive test holds if it holds of one
    of them, the denial if it holds of both.  Where there are no tokens only the denial holds. -/
theorem anyToken_by_token_sets (m : Moment) {c : Condition} (htype : c.valueType = .commaSplit)
    (hop : c.operator.isMultiValue = true) :
    (∃ kind, c.operator.matchKind? = some kind ∧ ∀ p r v, c.HasTextField r v →
      ∃ b, (c.withText p).evaluate m r = .ok (b != c.operator.isNegated) ∧
        (b = true ↔ ∃ s ∈ indexedTokens v, ∃ t ∈ Criteria.tokens p, kind.holds s t = true)) ∧
    (∀ p p' r r' v v', c.HasTextField r v → c.HasTextField r' v' →
      (∀ t, t ∈ Criteria.tokens p ↔ t ∈ Criteria.tokens p') →
      (∀ s, s ∈ indexedTokens v ↔ s ∈ indexedTokens v') →
        (c.withText p).evaluate m r = (c.withText p').evaluate m r') ∧
    (∀ a b r v, c.HasTextField r v →
      ∃ x y, (c.withText a).evaluate m r = .ok x ∧ (c.withText b).evaluate m r = .ok y ∧
        (c.withText (a ++ "," ++ b)).evaluate m r = .ok (c.operator.join x y)) ∧
    (∀ p s t r₁ r₂ r, c.HasTextField r₁ (.text s) → c.HasTextField r₂ (.text t) →
      c.HasTextField r (.text (s ++ "," ++ t)) →
        ∃ x y, (c.withText p).evaluate m r₁ = .ok x ∧ (c.withText p).evaluate m r₂ = .ok y ∧
          (c.withText p).evaluate m r = .ok (c.operator.join x y)) ∧
    (∀ p r v, c.HasTextField r v → indexedTokens v = [] ∨ Criteria.tokens p = [] →
      (c.withText p).evaluate m r = .ok c.operator.isNegated) := by
  obtain ⟨kind, hf⟩ := Operator.family_of_isMultiValue hop
  refine ⟨⟨kind, Operator.matchKind?_of_anyToken hf, ?_⟩, ?_, ?_, ?_, ?_⟩
  · intro p r v hv
    exact ⟨tokensMeet kind v p, evaluate_withText htype hf m p hv, tokensMeet_iff⟩
  · intro p p' r r' v v' hv hv' hp hs
    rw [evaluate_withText htype hf m p hv, evaluate_withText htype hf m p' hv',
      tokensMeet_congr hs hp]
  · intro a b r v hv
    refine ⟨_, _, evaluate_withText htype hf m a hv, evaluate_withText htype hf m b hv, ?_⟩
    rw [evaluate_withText htype hf m _ hv, tokensMeet_operands, Operator.join_signed]
  · intro p s t r₁ r₂ r hs ht hboth
    refine ⟨_, _, evaluate_withText htype hf m p hs, evaluate_withText htype hf m p ht, ?_⟩
    rw [evaluate_withText htype hf m p hboth, tokensMeet_fields, Operator.join_signed]
  · intro p r v hv hnone
    rw [evaluate_withText htype hf m p hv, tokensMeet_of_none hnone, Bool.false_bne]

/-- A denial of suffixes: blanks of two kinds beside the joining comma, a token twice, and an
    operand of nothing but a comma. -/
theorem anyToken_by_token_sets_blanks :
    (∃ x y, Condition.evaluate ⟨⟨⟨1970, 1, 1, by decide⟩, .midnight⟩, .utc⟩
        { identifier := "tags", valueType := .commaSplit, operator := .suffixNotContainsAny,
          operand := some (.text "b ") } (.plain [("tags", .text "ab, c,ab")]) = .ok x ∧
      Condition.evaluate ⟨⟨⟨1970, 1, 1, by decide⟩, .midnight⟩, .utc⟩
        { identifier := "tags", valueType := .commaSplit, operator := .suffixNotContainsAny,
          operand := some (.text "\u3000d") } (.plain [("tags", .text "ab, c,ab")]) = .ok y ∧
      Condition.evaluate ⟨⟨⟨1970, 1, 1, by decide⟩, .midnight⟩, .utc⟩
        { identifier := "tags", valueType := .commaSplit, operator := .suffixNotContainsAny,
          operand := some (.text ("b " ++ "," ++ "\u3000d")) }
        (.plain [("tags", .text "ab, c,ab")]) = .ok (x && y)) ∧
    Condition.evaluate ⟨⟨⟨1970, 1, 1, by decide⟩, .midnight⟩, .utc⟩
        { identifier := "tags", valueType := .commaSplit, operator := .suffixNotContainsAny,
          operand := some (.text "b ") } (.plain [("tags", .text "ab, c,ab")]) =
      Condition.evaluate ⟨⟨⟨1970, 1, 1, by decide⟩, .midnight⟩, .utc⟩
        { identifier := "tags", valueType := .commaSplit, operator := .suffixNotContainsAny,
          operand := some (.text ",b,,b") } (.plain [("tags", .text "c ,ab")]) ∧
    Condition.evaluate ⟨⟨⟨1970, 1, 1, by decide⟩, .midnight⟩, .utc⟩
        { identifier := "tags", valueType := .commaSplit, operator := .suffixNotContainsAny,
          operand := some (.text ",") } (.plain [("tags", .null)]) = .ok true := by
  have htags : ∀ v, (v = .null ∨ ∃ s, v = .text s) → HasTextField
      { identifier := "tags", valueType := .commaSplit, operator := .suffixNotContainsAny }
      (.plain [("tags", v)]) v := fun v hv => ⟨rfl, hv⟩
  obtain ⟨-, hsame, hoperands, -, hnone⟩ := anyToken_by_token_sets
    ⟨⟨⟨1970, 1, 1, by decide⟩, .midnight⟩, .utc⟩
    (c := { identifier := "tags", valueType := .commaSplit, operator := .suffixNotContainsAny })
    rfl rfl
  refine ⟨hoperands _ _ _ _ (htags (.text "ab, c,ab") (.inr ⟨_, rfl⟩)), ?_,
    hnone "," _ _ (htags .null (.inl rfl)) (.inl rfl)⟩
  have hoperand : Criteria.tokens "b " = ["b"] ∧ Criteria.tokens ",b,,b" = ["b", "b"] := by
    decide +kernel
  have hfield : indexedTokens (.text "ab, c,ab") = ["ab", "c", "ab"] ∧
      indexedTokens (.text "c ,ab") = ["c", "ab"] := by decide +kernel
  apply hsame _ _ _ _ _ _ (htags (.text "ab, c,ab") (.inr ⟨_, rfl⟩))
    (htags (.text "c ,ab") (.inr ⟨_, rfl⟩))
  · intro t
    rw [hoperand.1, hoperand.2]
    simp
  · intro s
    rw [hfield.1, hfield.2]
    simp only [List.mem_cons, List.not_mem_nil, or_false]
    tauto

end Condition

end Criteria
