/-
  Criteria/Proofs/Condition/Wire.lean
  ===================================
  **Conditions that are sent as JSON.**  Written and read again, a condition has the
  operands that it had, except that a date-time has become its text and a null is
  absent (`readJson?_text`).  Under its value type the text of a date-time is the
  date-time again, where a clock shows it, and a text that looks like a number or a
  date-time stays a text, since no other type reads it.  So a condition in normal
  form is restored by normalising what was read.

  Numbers are the exception.  What is written of a double are its shortest digits,
  and what is read is scaled from them in one step, which may miss the double by a
  place.  `ReadsBack` says of a double that it does not.
-/
import Criteria.Condition.Wire
import Criteria.Proofs.Calendar.Written
import Criteria.Proofs.Condition.Normal
import Criteria.Proofs.Json.Document

namespace Criteria

/-! ### Numbers -/

namespace Json

/-- A double is read back from the text that it is written as. -/
def ReadsBack (x : Binary64) : Prop := read? (float x).chars = some (.float x)

-- Not every finite double is: the scaling of `9e+115` rounds twice.
example : (readNumeral ((Binary64.ofDecimal false 9 115).text .marked)).map Numeral.scaled ≠
    some (Binary64.ofDecimal false 9 115) := by decide +kernel

theorem ReadsBack.doc? {x : Binary64} (h : ReadsBack x) :
    ∃ m, (float x).doc? = some (.number m) ∧ m.value? = some (.float x) := by
  unfold ReadsBack at h
  rw [read?, read?_chars] at h
  obtain ⟨d, hd, hvalue⟩ := Option.bind_eq_some_iff.mp h
  rw [Option.ite_none_right_eq_some] at hvalue
  rw [hd]
  rw [Json.doc?, Doc.ofWord?] at hd
  split at hd
  · cases hd
    exact nomatch hvalue.2
  split at hd
  · cases hd
    exact nomatch hvalue.2
  split at hd
  · cases hd
    exact nomatch hvalue.2
  · obtain ⟨m, -, rfl⟩ := Option.map_eq_some_iff.mp hd
    exact ⟨m, rfl, hvalue.2⟩

end Json

/-! ### What comes back -/

/-- What is read of a value that was written, if anything is. -/
def Value.wire? : Value → Option Value
  | .null => none
  | .time t => some (.text (String.ofList (t.textWith 'T')))
  | v => some v

theorem ValueType.ofExactName?_name (t : ValueType) : ofExactName? t.name = some t := by
  cases t <;> rfl

theorem Operator.ofExactName?_name (o : Operator) : ofExactName? o.name = some o := by
  cases o <;> rfl

namespace Condition

open Json (Doc)

theorem readOperand_toJson {v : Value} (hnumber : ∀ x, v = .number x → Json.ReadsBack x) :
    ∃ d, v.toJson.doc? = some d ∧ readOperand d = some v.wire? := by
  cases v with
  | null => exact ⟨.null, rfl, rfl⟩
  | number x =>
    obtain ⟨m, hm, hvalue⟩ := (hnumber x rfl).doc?
    refine ⟨.number m, hm, ?_⟩
    simp only [readOperand, hvalue, Value.wire?]
  | text s => exact ⟨.string (some s), rfl, rfl⟩
  | time t => exact ⟨_, rfl, rfl⟩

/-- The documents of an operand that may be absent. -/
theorem memberDocs?_operandMember (key : String) {operand : Option Value}
    (hnumber : ∀ x, operand = some (.number x) → Json.ReadsBack x) :
    ∃ ds, Json.memberDocs? (operandMember key operand) = some ds ∧
      ((ds = [] ∧ operand.bind Value.wire? = none) ∨
        ∃ d, ds = [(some key, d)] ∧ readOperand d = some (operand.bind Value.wire?)) := by
  cases operand with
  | none => exact ⟨[], rfl, .inl ⟨rfl, rfl⟩⟩
  | some v =>
    have hnumber' : ∀ x, v = .number x → Json.ReadsBack x := by
      rintro x rfl
      exact hnumber x rfl
    obtain ⟨d, hd, hread⟩ := readOperand_toJson hnumber'
    refine ⟨[(some key, d)], ?_, .inr ⟨d, rfl, hread⟩⟩
    simp [operandMember, Json.memberDocs?, hd]

/-- What is found under the key of an operand, and the operand that is read of it. -/
inductive Optional : Found → Option Value → Prop where
  | absent : Optional .absent none
  | once {d : Doc} {v : Option Value} (h : readOperand d = some v) : Optional (.once d) v

theorem ofParts?_names (c : Condition) {f g : Found} {v u : Option Value} (hf : Optional f v)
    (hg : Optional g u) :
    ofParts? (.string (some c.identifier)) (.string (some c.valueType.name))
        (.string (some c.operator.name)) f g =
      some { c with operand := v, secondary := u } := by
  have hread : ∀ {f : Found} {v : Option Value}, Optional f v → readOptional f = some v := by
    intro f v h
    cases h with
    | absent => rfl
    | once h => exact h
  simp only [ofParts?, readText, readValueType, readOperator, readName, Option.bind_some,
    ValueType.ofExactName?_name, Operator.ofExactName?_name, hread hf, hread hg,
    Option.bind_eq_bind, Option.pure_def]

/-- The condition that is read of the text of another. -/
def received (c : Condition) : Condition :=
  { c with operand := c.operand.bind Value.wire?, secondary := c.secondary.bind Value.wire? }

/-- **What a condition comes back as.**  Everything but its operands is as it was. -/
theorem readJson?_text {c : Condition}
    (hnumbers : ∀ x, c.operand = some (.number x) ∨ c.secondary = some (.number x) →
      Json.ReadsBack x) :
    readJson? c.toJson.text.toList = some c.received := by
  obtain ⟨ds, hds, hoperand⟩ := memberDocs?_operandMember "operand" fun x hx => hnumbers x (.inl hx)
  obtain ⟨es, hes, hsecond⟩ :=
    memberDocs?_operandMember "secondary_operand" fun x hx => hnumbers x (.inr hx)
  have hparts : Json.memberDocs? [("identifier", .string c.identifier),
      ("value_type", .string c.valueType.name), ("operator", .string c.operator.name)] =
      some [(some "identifier", .string (some c.identifier)),
        (some "value_type", .string (some c.valueType.name)),
        (some "operator", .string (some c.operator.name))] := rfl
  have hdoc : Json.Doc.read? c.toJson.text.toList = some (.object
      ([(some "identifier", .string (some c.identifier)),
        (some "value_type", .string (some c.valueType.name)),
        (some "operator", .string (some c.operator.name))] ++ ds ++ es)) := by
    rw [Json.text, String.toList_ofList, Json.read?_chars, toJson, Json.doc?,
      Json.memberDocs?_append, Json.memberDocs?_append, hparts, hds, hes]
    rfl
  rw [readJson?, hdoc, Option.bind_some, received]
  rcases hoperand with ⟨rfl, hnone⟩ | ⟨d, rfl, hread⟩
  · rw [hnone]
    rcases hsecond with ⟨rfl, hnone'⟩ | ⟨e, rfl, hread'⟩
    · rw [hnone']
      exact ofParts?_names c .absent .absent
    · exact ofParts?_names c .absent (.once hread')
  · rcases hsecond with ⟨rfl, hnone'⟩ | ⟨e, rfl, hread'⟩
    · rw [hnone']
      exact ofParts?_names c (.once hread) .absent
    · exact ofParts?_names c (.once hread) (.once hread')

/-! ### Normal forms -/

theorem coerce_wire? {t : ValueType} {w : Value} (h : t.isNative w = true)
    (hshown : ∀ d, w = .time d → d.time.IsShown) :
    ∃ v, w.wire? = some v ∧ v ≠ .null ∧ t.coerce v = .ok w := by
  have hnull := ValueType.ne_null_of_isNative h
  cases w with
  | null => exact absurd rfl hnull
  | number x => exact ⟨_, rfl, hnull, ValueType.coerce_of_isNative h⟩
  | text s => exact ⟨_, rfl, hnull, ValueType.coerce_of_isNative h⟩
  | time d =>
    refine ⟨_, rfl, by simp, ?_⟩
    cases t with
    | time =>
      have hread := Calendar.readDateTime_textWith d (.inr rfl)
      rw [d.shown_eq_self_iff.mpr (hshown d rfl)] at hread
      simp only [ValueType.coerce, ValueType.native, String.toList_ofList, hread, Except.mapError]
    | text | longText | numeric | commaSplit => simp [ValueType.isNative] at h

/-- The secondary operand of a normal form is restored, if it is not a null. -/
theorem second_wire? {n : Condition} (hn : n.normalized = .ok n)
    (harity : n.operator.arity ≠ .nullary) (hsecond : n.secondary ≠ some .null)
    (hshown : ∀ t, n.secondary = some (.time t) → t.time.IsShown) :
    n.received.second = .ok n.secondary := by
  rcases normalized_cases hn with ⟨hnullary, -⟩ | ⟨-, first, u, -, hu, hparts⟩
  · exact absurd hnullary harity
  · have hsame : n.secondary = u := by rw [hparts]
    unfold received
    rcases second_eq_ok hu with ⟨hnone, -⟩ | ⟨v, w, hv, hw, rfl⟩
    · rw [hnone]
      rfl
    · rw [hsame] at hsecond hshown ⊢
      rcases ValueType.coerce_cases hw with ⟨-, rfl⟩ | ⟨-, hnative⟩
      · exact absurd rfl hsecond
      · have hshown' : ∀ d, w = .time d → d.time.IsShown := fun d hd => hshown d (congrArg some hd)
        obtain ⟨x, hx, -, hread⟩ := coerce_wire? hnative hshown'
        simp only [second, Option.bind_some, hx, hread, Except.map]

theorem normalized_received {n : Condition} (hn : n.normalized = .ok n)
    (hsecond : n.secondary ≠ some .null)
    (hshown : ∀ t, n.operand = some (.time t) ∨ n.secondary = some (.time t) → t.time.IsShown) :
    n.received.normalized = .ok n := by
  by_cases harity : n.operator.arity = .nullary
  · have hreceived : n.received.operator.arity = .nullary := harity
    rw [normalized_of_nullary harity] at hn
    rw [normalized_of_nullary hreceived]
    exact hn
  · have hreceived : n.received.operator.arity ≠ .nullary := harity
    obtain ⟨w, hw, hnative⟩ := isNative_of_normalized hn harity
    have hshown' : ∀ d, w = .time d → d.time.IsShown := by
      rintro d rfl
      exact hshown d (.inl hw)
    obtain ⟨v, hv, hnull, hread⟩ := coerce_wire? hnative hshown'
    have hoperand : n.received.operand = some v := by rw [received, hw, Option.bind_some, hv]
    have hprimary := primary_of_coerce hoperand hnull hread
    have hsecond' := second_wire? hn harity hsecond fun t ht => hshown t (.inr ht)
    rw [normalized_of_operands hreceived hprimary hsecond', ← hw]
    rfl

/-- **A condition in normal form survives being sent as JSON.**  What is read of its text is a
    condition whose normal form is the one that was sent, if the numbers in it are read back and a
    leap second in it is one that is written as second 60. -/
theorem normalized_of_wire {n : Condition} (hn : n.normalized = .ok n)
    (hsecond : n.secondary ≠ some .null)
    (hshown : ∀ t, n.operand = some (.time t) ∨ n.secondary = some (.time t) → t.time.IsShown)
    (hnumbers : ∀ x, n.operand = some (.number x) ∨ n.secondary = some (.number x) →
      Json.ReadsBack x) :
    ∃ c, readJson? n.toJson.text.toList = some c ∧ c.normalized = .ok n :=
  ⟨n.received, readJson?_text hnumbers, normalized_received hn hsecond hshown⟩

/-- A leap second before the first year under a name with a quote and a control character, and a
    number beside a number. -/
theorem normalized_of_wire_leap :
    (∃ c, readJson? (toJson
        { identifier := "a\"\x01", valueType := .time, operator := .lessThan,
          operand := some (.time
            ⟨⟨0, 12, 31, by decide⟩, ⟨23, 59, 59, 1500000000, by decide⟩⟩) }).text.toList = some c ∧
      c.normalized = .ok
        { identifier := "a\"\x01", valueType := .time, operator := .lessThan,
          operand := some (.time
            ⟨⟨0, 12, 31, by decide⟩, ⟨23, 59, 59, 1500000000, by decide⟩⟩) }) ∧
    ∃ c, readJson? (toJson
        { identifier := "n", valueType := .numeric, operator := .is,
          operand := some (.number (.ofDecimal true 1 (-1))),
          secondary := some (.number (.ofDecimal false 15 (-11))) }).text.toList = some c ∧
      c.normalized = .ok
        { identifier := "n", valueType := .numeric, operator := .is,
          operand := some (.number (.ofDecimal true 1 (-1))),
          secondary := some (.number (.ofDecimal false 15 (-11))) } := by
  have hnumber : Json.ReadsBack (.ofDecimal true 1 (-1)) := rfl
  have hsecond : Json.ReadsBack (.ofDecimal false 15 (-11)) := rfl
  constructor
  · apply normalized_of_wire rfl
    · simp
    · rintro t (ht | ht)
      · rw [← Value.time.inj (Option.some.inj ht)]
        decide
      · exact nomatch ht
    · simp
  · apply normalized_of_wire
    · decide +kernel
    · simp
    · simp
    · rintro x (hx | hx)
      · rw [← Value.number.inj (Option.some.inj hx)]
        exact hnumber
      · rw [← Value.number.inj (Option.some.inj hx)]
        exact hsecond

end Condition

end Criteria
