/-
  Criteria/Proofs/MatchKinds.lean
  ===============================
  **The relations of texts are ordered by implication, and conditions with them.**
  Equality is the strongest relation, occurrence the weakest, and the other two lie
  between them, neither above the other (`strengthens_iff`).  Every relation is
  transitive, so what holds of an operand holds of the parts of it that the
  relation is about.

  All tests of texts come down to one relation each, those of tokens included, and
  to a sign (`evaluate_withOperator_iff`).  An answer is therefore carried along an
  implication between two relations; under a denial it is carried backwards.  A
  null stands in no relation, so it passes all denials and nothing else, which
  agrees with either direction.
-/
import Criteria.Proofs.Condition.Denial
import Criteria.Proofs.TokenSets

namespace Criteria

/-! ### The order of the relations -/

namespace MatchKind

/-- Whatever stands in the one relation stands in the other. -/
def Strengthens (a b : MatchKind) : Prop :=
  ∀ s p, a.holds s p = true → b.holds s p = true

theorem exact_strengthens (kind : MatchKind) : exact.Strengthens kind := by
  intro s p h
  have heq : s.toList = p.toList := (relates_exact _ _).mp h
  rw [holds, heq]
  cases kind with
  | exact => exact (relates_exact _ _).mpr rfl
  | leading => exact (relates_leading _ _).mpr (List.prefix_refl _)
  | trailing => exact (relates_trailing _ _).mpr (List.suffix_refl _)
  | within => exact (relates_within _ _).mpr (List.infix_refl _)

theorem strengthens_within (kind : MatchKind) : kind.Strengthens within := by
  intro s p h
  apply (relates_within _ _).mpr
  cases kind with
  | exact =>
    rw [(relates_exact _ _).mp h]
  | leading => exact ((relates_leading _ _).mp h).isInfix
  | trailing => exact ((relates_trailing _ _).mp h).isInfix
  | within => exact (relates_within _ _).mp h

/-- **The order of the relations**: equality implies all of them, all of them imply occurrence, and
    nothing else follows. -/
theorem strengthens_iff {a b : MatchKind} :
    a.Strengthens b ↔ a = .exact ∨ b = .within ∨ a = b := by
  constructor
  · intro h
    -- one letter at an end of a text, or inside of it, tells the relations apart
    have hfront := h "ab" "a"
    have hback := h "ba" "a"
    have hinside := h "bab" "a"
    revert hfront hback hinside
    cases a <;> cases b <;> decide +kernel
  · rintro (rfl | rfl | rfl)
    · exact exact_strengthens b
    · exact strengthens_within a
    · exact fun _ _ h => h

theorem holds_trans (kind : MatchKind) {s p q : String} (hp : kind.holds s p = true)
    (hq : kind.holds p q = true) : kind.holds s q = true := by
  cases kind with
  | exact =>
    exact (relates_exact _ _).mpr (((relates_exact _ _).mp hp).trans ((relates_exact _ _).mp hq))
  | leading =>
    exact (relates_leading _ _).mpr
      (((relates_leading _ _).mp hq).trans ((relates_leading _ _).mp hp))
  | trailing =>
    exact (relates_trailing _ _).mpr
      (((relates_trailing _ _).mp hq).trans ((relates_trailing _ _).mp hp))
  | within =>
    exact (relates_within _ _).mpr
      (((relates_within _ _).mp hq).trans ((relates_within _ _).mp hp))

end MatchKind

theorem anyTokenPair_iff {kind : MatchKind} {s p : String} :
    anyTokenPair kind s p = true ↔ ∃ x ∈ tokens s, ∃ y ∈ tokens p, kind.holds x y = true := by
  simp only [anyTokenPair, List.any_eq_true]

theorem anyTokenPair_of_strengthens {a b : MatchKind} (h : a.Strengthens b) (s p : String)
    (hpair : anyTokenPair a s p = true) : anyTokenPair b s p = true := by
  obtain ⟨x, hx, y, hy, hxy⟩ := anyTokenPair_iff.mp hpair
  exact anyTokenPair_iff.mpr ⟨x, hx, y, hy, h x y hxy⟩

/-! ### Operators that test a relation -/

/-- The relation of texts that an operator tests, its sign aside. -/
def Operator.relation? (o : Operator) : Option (String → String → Bool) :=
  match o.family with
  | .equality => some MatchKind.exact.holds
  | .substring kind => some kind.holds
  | .anyToken kind => some (anyTokenPair kind)
  | _ => none

theorem Operator.arity_of_relation {o : Operator} {relation : String → String → Bool}
    (h : o.relation? = some relation) : o.arity ≠ .nullary := by
  unfold relation? at h
  cases hf : o.family with
  | equality | substring kind | anyToken kind => simp [arity, hf]
  | nullCheck | relativeDay days | ordering => simp [hf] at h

/-- A test of texts holds of two texts in its relation, and a denial of all else. -/
theorem Condition.holds_of_relation {n : Condition} {relation : String → String → Bool}
    (h : n.operator.relation? = some relation) {p : String} (hp : n.operand = some (.text p))
    {v : Value} (hv : v = .null ∨ ∃ s, v = .text s) (m : Moment) :
    n.holds m v = (textsRelate relation v (.text p) != n.operator.isNegated) := by
  have hkind : ∀ kind, n.operator.textKind? = some kind → n.holds m v =
      (textsRelate kind.holds v (.text p) != n.operator.isNegated) := by
    intro kind hop
    rcases hv with rfl | ⟨s, rfl⟩
    · rw [holds_null hop]
      exact (Bool.false_bne _).symm
    · exact holds_text hop hp m s
  unfold Operator.relation? at h
  cases hf : n.operator.family with
  | equality =>
    rw [hf, Option.some.injEq] at h
    rw [← h]
    exact hkind .exact (by simp [Operator.textKind?, hf])
  | substring kind =>
    rw [hf, Option.some.injEq] at h
    rw [← h]
    exact hkind kind (by simp [Operator.textKind?, hf])
  | anyToken kind =>
    rw [hf, Option.some.injEq] at h
    rw [← h]
    have hoperand : n.operand.getD .null = .text p := by rw [hp, Option.getD_some]
    simp only [holds, hf, hoperand]
  | nullCheck | relativeDay days | ordering => simp [hf] at h

theorem textsRelate_mono {relation relation' : String → String → Bool}
    (h : ∀ s p, relation s p = true → relation' s p = true) {v w : Value}
    (hv : textsRelate relation v w = true) : textsRelate relation' v w = true := by
  cases v with
  | text s =>
    cases w with
    | text p => exact h s p hv
    | null | number x | time t => exact nomatch hv
  | null | number x | time t => exact nomatch hv

/-! ### Answers of tests of texts -/

/-- The operator is defined for the type, and tests this relation of texts or denies it. -/
structure Operator.Tests (o : Operator) (t : ValueType) (relation : String → String → Bool)
    (negated : Bool) : Prop where
  supports : o.supports t = true
  relation : o.relation? = some relation
  sign : o.isNegated = negated

/-- The operator that tests texts for a relation, or denies it. -/
def Operator.ofText (negated : Bool) : MatchKind → Operator
  | .exact => if negated then .not else .is
  | .leading => if negated then .prefixNotContains else .prefixContains
  | .trailing => if negated then .suffixNotContains else .suffixContains
  | .within => if negated then .notContains else .contains

/-- The operator that tests tokens for a relation, or denies it. -/
def Operator.ofTokens (negated : Bool) : MatchKind → Operator
  | .exact => if negated then .notAny else .isAny
  | .leading => if negated then .prefixNotContainsAny else .prefixContainsAny
  | .trailing => if negated then .suffixNotContainsAny else .suffixContainsAny
  | .within => if negated then .notContainsAny else .containsAny

theorem Operator.tests_ofText {t : ValueType} (ht : t = .text ∨ t = .longText) (negated : Bool)
    (kind : MatchKind) : (ofText negated kind).Tests t kind.holds negated := by
  rcases ht with rfl | rfl <;> cases negated <;> cases kind <;> exact ⟨rfl, rfl, rfl⟩

theorem Operator.tests_ofTokens (negated : Bool) (kind : MatchKind) :
    (ofTokens negated kind).Tests .commaSplit (anyTokenPair kind) negated := by
  cases negated <;> cases kind <;> exact ⟨rfl, rfl, rfl⟩

/-- Four statements that imply one another as the relations do: the first one the two in the middle,
    and either of these the last one. -/
structure Diamond (first left right last : Prop) : Prop where
  left_of_first : first → left
  right_of_first : first → right
  last_of_left : left → last
  last_of_right : right → last

namespace Condition

/-- The field of a record and the operand of a condition, as a textual type reads them: there is an
    operand, and the field may be null. -/
structure Reads (c : Condition) (r : Record) (v : Value) (p : String) : Prop where
  field : c.fieldOf r = .ok v
  operand : c.primary = .ok (.text p)

/-- The condition with this operator holds of a record. -/
def HoldsWith (c : Condition) (o : Operator) (m : Moment) (r : Record) : Prop :=
  (c.withOperator o).evaluate m r = .ok true

section

variable {c : Condition} (htextual : c.valueType.isTextual = true) {m : Moment} {r : Record}

include htextual

theorem textual_of_coerce {v w : Value} (h : c.valueType.coerce v = .ok w) :
    w = .null ∨ ∃ s, w = .text s := by
  by_cases hv : v = .null
  · rw [hv, ValueType.coerce_null, Except.ok.injEq] at h
    exact .inl h.symm
  · rw [ValueType.coerce_of_isTextual htextual hv, Except.ok.injEq] at h
    exact .inr ⟨_, h.symm⟩

/-- **What a test of texts answers**: whether the field stands in the operator's relation to the
    operand, up to the sign; and there is no answer unless both can be read. -/
theorem evaluate_withOperator_iff {o : Operator} {relation : String → String → Bool}
    {negated : Bool} (h : o.Tests c.valueType relation negated) {b : Bool} :
    (c.withOperator o).evaluate m r = .ok b ↔
      ∃ v p, c.Reads r v p ∧ (textsRelate relation v (.text p) != negated) = b := by
  have harity := Operator.arity_of_relation h.relation
  have hholds : ∀ {n : Condition} {v : Value} {p : String},
      (c.withOperator o).normalized = .ok n → n.operand = some (.text p) →
      (v = .null ∨ ∃ s, v = .text s) →
      n.holds m v = (textsRelate relation v (.text p) != negated) := by
    intro n v p hn hp hv
    have hop : n.operator = o := (normalized_keeps hn).2.2
    rw [holds_of_relation (by rw [hop]; exact h.relation) hp hv, hop, h.sign]
  rw [evaluate_eq_ok_iff]
  constructor
  · rintro ⟨-, w, v, n, hw, hv, hn, -, hb⟩
    rcases normalized_cases hn with ⟨hnull, -⟩ | ⟨-, first, second, hfirst, -, rfl⟩
    · exact absurd hnull harity
    · obtain ⟨p, hp⟩ := operand_of_normalized hn htextual harity
      rw [Option.some.inj hp] at hfirst
      refine ⟨v, p, ⟨fieldOf_eq_ok_iff.mpr ⟨w, hw, hv⟩, ?_⟩, ?_⟩
      · exact primary_withOperator (c := c.withOperator o) hfirst c.operator
      · rw [← hb, hholds hn hp (textual_of_coerce htextual hv)]
  · rintro ⟨v, p, ⟨hfield, hoperand⟩, hb⟩
    obtain ⟨w, hw, hv⟩ := fieldOf_eq_ok_iff.mp hfield
    obtain ⟨second, hsecond⟩ := second_isOk_of_isTextual htextual
    have hn := normalized_of_operands (n := c.withOperator o) harity
      (primary_withOperator hoperand o) hsecond
    exact ⟨h.supports, w, v, _, hw, hv, hn, panics_of_arity (c := c.withOperator o) harity m v,
      by rw [← hb, hholds hn rfl (textual_of_coerce htextual hv)]⟩

theorem holdsWith_iff {o : Operator} {relation : String → String → Bool} {negated : Bool}
    (h : o.Tests c.valueType relation negated) :
    c.HoldsWith o m r ↔
      ∃ v p, c.Reads r v p ∧ textsRelate relation v (.text p) = !negated := by
  rw [HoldsWith, evaluate_withOperator_iff htextual h]
  have hsign : ∀ b : Bool, (b != negated) = true ↔ b = !negated := by
    intro b
    cases b <;> cases negated <;> decide
  simp only [hsign]

/-! ### Along an implication -/

section

variable {o o' : Operator} {relation relation' : String → String → Bool}
  (himplies : ∀ s p, relation s p = true → relation' s p = true)

include himplies

theorem holdsWith_mono (h : o.Tests c.valueType relation false)
    (h' : o'.Tests c.valueType relation' false) (hholds : c.HoldsWith o m r) :
    c.HoldsWith o' m r := by
  obtain ⟨v, p, hreads, hrelated⟩ := (holdsWith_iff htextual h).mp hholds
  exact (holdsWith_iff htextual h').mpr ⟨v, p, hreads, textsRelate_mono himplies hrelated⟩

/-- A denial of the weaker relation denies the stronger one. -/
theorem holdsWith_anti (h : o.Tests c.valueType relation true)
    (h' : o'.Tests c.valueType relation' true) (hholds : c.HoldsWith o' m r) :
    c.HoldsWith o m r := by
  obtain ⟨v, p, hreads, hrelated⟩ := (holdsWith_iff htextual h').mp hholds
  refine (holdsWith_iff htextual h).mpr ⟨v, p, hreads, ?_⟩
  rw [Bool.not_true, ← Bool.not_eq_true] at hrelated ⊢
  exact fun hstronger => hrelated (textsRelate_mono himplies hstronger)

end

section

variable {ops : MatchKind → Operator} {relation : MatchKind → String → String → Bool}
  (hmono : ∀ a b, a.Strengthens b → ∀ s p, relation a s p = true → relation b s p = true)

include hmono

theorem diamond_of_tests (h : ∀ kind, (ops kind).Tests c.valueType (relation kind) false) :
    Diamond (c.HoldsWith (ops .exact) m r) (c.HoldsWith (ops .leading) m r)
      (c.HoldsWith (ops .trailing) m r) (c.HoldsWith (ops .within) m r) := by
  have halong : ∀ a b, a.Strengthens b → c.HoldsWith (ops a) m r → c.HoldsWith (ops b) m r :=
    fun a b hab => holdsWith_mono htextual (hmono a b hab) (h a) (h b)
  exact {
    left_of_first := halong _ _ (MatchKind.strengthens_iff.mpr (.inl rfl))
    right_of_first := halong _ _ (MatchKind.strengthens_iff.mpr (.inl rfl))
    last_of_left := halong _ _ (MatchKind.strengthens_iff.mpr (.inr (.inl rfl)))
    last_of_right := halong _ _ (MatchKind.strengthens_iff.mpr (.inr (.inl rfl))) }

theorem diamond_of_denials (h : ∀ kind, (ops kind).Tests c.valueType (relation kind) true) :
    Diamond (c.HoldsWith (ops .within) m r) (c.HoldsWith (ops .leading) m r)
      (c.HoldsWith (ops .trailing) m r) (c.HoldsWith (ops .exact) m r) := by
  have hagainst : ∀ a b, a.Strengthens b → c.HoldsWith (ops b) m r → c.HoldsWith (ops a) m r :=
    fun a b hab => holdsWith_anti htextual (hmono a b hab) (h a) (h b)
  exact {
    left_of_first := hagainst _ _ (MatchKind.strengthens_iff.mpr (.inr (.inl rfl)))
    right_of_first := hagainst _ _ (MatchKind.strengthens_iff.mpr (.inr (.inl rfl)))
    last_of_left := hagainst _ _ (MatchKind.strengthens_iff.mpr (.inl rfl))
    last_of_right := hagainst _ _ (MatchKind.strengthens_iff.mpr (.inl rfl)) }

end

/-! ### Parts of an operand -/

theorem reads_withText {v : Value} {p : String} (h : c.Reads r v p) (q : String) :
    (c.withText q).Reads r v q :=
  ⟨h.field, primary_of_coerce rfl (by simp) (ValueType.coerce_of_isTextual htextual (by simp))⟩

/-- What stands in a relation to an operand stands in it to whatever the operand does. -/
theorem holdsWith_withText {o : Operator} {kind : MatchKind}
    (h : o.Tests c.valueType kind.holds false) {p q : String} (hp : c.primary = .ok (.text p))
    (hpq : kind.holds p q = true) (hholds : c.HoldsWith o m r) :
    (c.withText q).HoldsWith o m r := by
  obtain ⟨v, p', hreads, hrelated⟩ := (holdsWith_iff htextual h).mp hholds
  obtain rfl : p' = p := Value.text.inj (Except.ok.inj (hreads.operand.symm.trans hp))
  refine (holdsWith_iff (c := c.withText q) htextual h).mpr
    ⟨v, q, reads_withText htextual hreads q, ?_⟩
  cases v with
  | text s => exact kind.holds_trans hrelated hpq
  | null | number x | time t => exact nomatch hrelated

theorem holdsWith_of_withText_denied {o : Operator} {kind : MatchKind}
    (h : o.Tests c.valueType kind.holds true) {p q : String} (hp : c.primary = .ok (.text p))
    (hpq : kind.holds p q = true) (hholds : (c.withText q).HoldsWith o m r) :
    c.HoldsWith o m r := by
  obtain ⟨v, q', hreads, hrelated⟩ := (holdsWith_iff (c := c.withText q) htextual h).mp hholds
  obtain rfl : q' = q :=
    Value.text.inj (Except.ok.inj (hreads.operand.symm.trans
      (reads_withText htextual (p := p) ⟨hreads.field, hp⟩ q).operand))
  refine (holdsWith_iff htextual h).mpr ⟨v, p, ⟨hreads.field, hp⟩, ?_⟩
  rw [Bool.not_true, ← Bool.not_eq_true] at hrelated ⊢
  intro hwhole
  apply hrelated
  cases v with
  | text s => exact kind.holds_trans hwhole hpq
  | null | number x | time t => exact nomatch hwhole

end

/-! ### All tests of texts -/

/-- **The match kinds are ordered by implication in memory.**  On texts equality implies a match of
    the front and of the end, and either of these implies a match somewhere; the denials imply one
    another backwards, and a match with an operand is one with each part of it that the operator is
    about.  On tokens it is the same, for the relations between tokens. -/
theorem matchKinds_ordered (m : Moment) (r : Record) (c : Condition) :
    (c.valueType = .text ∨ c.valueType = .longText →
      Diamond (c.HoldsWith .is m r) (c.HoldsWith .prefixContains m r)
        (c.HoldsWith .suffixContains m r) (c.HoldsWith .contains m r) ∧
      Diamond (c.HoldsWith .notContains m r) (c.HoldsWith .prefixNotContains m r)
        (c.HoldsWith .suffixNotContains m r) (c.HoldsWith .not m r) ∧
      ∀ w p q, c.operand = some w → c.valueType.coerce w = .ok (.text p) →
        (q.toList <:+: p.toList →
          (c.HoldsWith .contains m r → (c.withText q).HoldsWith .contains m r) ∧
          ((c.withText q).HoldsWith .notContains m r → c.HoldsWith .notContains m r)) ∧
        (q.toList <+: p.toList →
          (c.HoldsWith .prefixContains m r → (c.withText q).HoldsWith .prefixContains m r) ∧
          ((c.withText q).HoldsWith .prefixNotContains m r →
            c.HoldsWith .prefixNotContains m r)) ∧
        (q.toList <:+ p.toList →
          (c.HoldsWith .suffixContains m r → (c.withText q).HoldsWith .suffixContains m r) ∧
          ((c.withText q).HoldsWith .suffixNotContains m r →
            c.HoldsWith .suffixNotContains m r))) ∧
    (c.valueType = .commaSplit →
      Diamond (c.HoldsWith .isAny m r) (c.HoldsWith .prefixContainsAny m r)
        (c.HoldsWith .suffixContainsAny m r) (c.HoldsWith .containsAny m r) ∧
      Diamond (c.HoldsWith .notContainsAny m r) (c.HoldsWith .prefixNotContainsAny m r)
        (c.HoldsWith .suffixNotContainsAny m r) (c.HoldsWith .notAny m r)) := by
  constructor
  · intro htype
    have htextual : c.valueType.isTextual = true := by
      rcases htype with ht | ht <;> rw [ht] <;> rfl
    have htests := fun kind => Operator.tests_ofText htype false kind
    have hdenials := fun kind => Operator.tests_ofText htype true kind
    refine ⟨diamond_of_tests htextual (fun _ _ hab => hab) htests,
      diamond_of_denials htextual (fun _ _ hab => hab) hdenials, ?_⟩
    intro w p q hw hread
    have hnull : w ≠ .null := by
      rintro rfl
      rw [ValueType.coerce_null] at hread
      exact nomatch hread
    have hp : c.primary = .ok (.text p) := primary_of_coerce hw hnull hread
    have hparts : ∀ kind, MatchKind.holds kind p q = true →
        (c.HoldsWith (.ofText false kind) m r →
          (c.withText q).HoldsWith (.ofText false kind) m r) ∧
        ((c.withText q).HoldsWith (.ofText true kind) m r →
          c.HoldsWith (.ofText true kind) m r) :=
      fun kind hpq => ⟨holdsWith_withText htextual (htests kind) hp hpq,
        holdsWith_of_withText_denied htextual (hdenials kind) hp hpq⟩
    exact ⟨fun hpart => hparts .within ((MatchKind.relates_within _ _).mpr hpart),
      fun hpart => hparts .leading ((MatchKind.relates_leading _ _).mpr hpart),
      fun hpart => hparts .trailing ((MatchKind.relates_trailing _ _).mpr hpart)⟩
  · intro htype
    have htextual : c.valueType.isTextual = true := by
      rw [htype]
      rfl
    have hoperators := fun negated kind => Operator.tests_ofTokens negated kind
    rw [← htype] at hoperators
    exact ⟨diamond_of_tests htextual (fun _ _ => anyTokenPair_of_strengthens) (hoperators false),
      diamond_of_denials htextual (fun _ _ => anyTokenPair_of_strengthens) (hoperators true)⟩

/-- A number as field and as operand, read as texts, and a part of the operand; and a null field,
    of which the denials hold. -/
theorem matchKinds_ordered_number :
    Condition.HoldsWith
        { identifier := "code", valueType := .text, operator := .isNull,
          operand := some (.number (.ofInt 201)) } .contains
        ⟨⟨⟨1970, 1, 1, by decide⟩, .midnight⟩, .utc⟩ (.plain [("code", .number (.ofInt 2015))]) ∧
      Condition.HoldsWith
        { identifier := "code", valueType := .text, operator := .isNull,
          operand := some (.text "01") } .contains
        ⟨⟨⟨1970, 1, 1, by decide⟩, .midnight⟩, .utc⟩ (.plain [("code", .number (.ofInt 2015))]) ∧
      Condition.HoldsWith
        { identifier := "tags", valueType := .commaSplit, operator := .isNull,
          operand := some (.text "b") } .notAny
        ⟨⟨⟨1970, 1, 1, by decide⟩, .midnight⟩, .utc⟩ (.plain [("tags", .null)]) := by
  obtain ⟨htexts, -⟩ := matchKinds_ordered ⟨⟨⟨1970, 1, 1, by decide⟩, .midnight⟩, .utc⟩
    (.plain [("code", .number (.ofInt 2015))])
    { identifier := "code", valueType := .text, operator := .isNull,
      operand := some (.number (.ofInt 201)) }
  obtain ⟨hdiamond, -, hparts⟩ := htexts (.inl rfl)
  have hprefix : Condition.evaluate ⟨⟨⟨1970, 1, 1, by decide⟩, .midnight⟩, .utc⟩
      { identifier := "code", valueType := .text, operator := .prefixContains,
        operand := some (.number (.ofInt 201)) }
      (.plain [("code", .number (.ofInt 2015))]) = .ok true := by decide +kernel
  have hcontains := hdiamond.last_of_left hprefix
  have hread : ValueType.coerce .text (.number (.ofInt 201)) = .ok (.text "201") := by
    decide +kernel
  obtain ⟨-, htokens⟩ := matchKinds_ordered ⟨⟨⟨1970, 1, 1, by decide⟩, .midnight⟩, .utc⟩
    (.plain [("tags", .null)])
    { identifier := "tags", valueType := .commaSplit, operator := .isNull,
      operand := some (.text "b") }
  have hdenied : Condition.evaluate ⟨⟨⟨1970, 1, 1, by decide⟩, .midnight⟩, .utc⟩
      { identifier := "tags", valueType := .commaSplit, operator := .suffixNotContainsAny,
        operand := some (.text "b") } (.plain [("tags", .null)]) = .ok true := by decide +kernel
  exact ⟨hcontains, ((hparts _ _ "01" rfl hread).1 ⟨['2'], [], rfl⟩).1 hcontains,
    (htokens rfl).2.last_of_right hdenied⟩

end Condition

end Criteria
