/-
  Criteria/Proofs/Record/Integers.lean
  ====================================
  **Integer fields that are compared as texts.**  A value has one kind of number, the
  double, so an integer of a JSON record is read as the double nearest to it, and as
  a text it is what is written of that double.  For the integers of 64 bits this is
  the text of an integer again.  So a record is found by the digits of exactly one
  integer (`FoundBy`), and two fields are found by the same one exactly if they have
  the same nearest double.

  Up to `2 ^ 53` each integer is a double of its own, and a field is found by its own
  digits.  The next integer is the first that is not.
-/
import Criteria.Proofs.Number.Whole
import Criteria.Proofs.TokenSets

namespace Criteria

open Text

/-- The integers of 64 bits, signed or not. -/
theorem natAbs_le_of_fits {n : Int} (h : (fitsSigned 64 n || fitsUnsigned 64 n) = true) :
    n.natAbs ≤ 2 ^ 64 := by
  have hsigned : twoTo (64 - 1) = 9223372036854775808 := rfl
  have hunsigned : twoTo 64 = 18446744073709551616 := rfl
  simp only [fitsSigned, fitsUnsigned, hsigned, hunsigned, Bool.or_eq_true, Bool.and_eq_true,
    decide_eq_true_eq] at h
  omega

namespace Condition

/-- The condition with the digits of an integer as its operand. -/
def withDigits (c : Condition) (i : Int) : Condition := c.withText (String.ofList (intDigits i))

/-- The digits of `w` are the ones that a record has under a condition, those of any other integer
    are not. -/
def FoundBy (c : Condition) (m : Moment) (r : Record) (w : Int) : Prop :=
  ∀ i : Int, (c.withDigits i).evaluate m r = .ok (decide (i = w))

variable {c : Condition} {m : Moment} {r : Record}

theorem FoundBy.unique {w w' : Int} (h : c.FoundBy m r w) (h' : c.FoundBy m r w') : w = w' := by
  have hsame := (h w).symm.trans (h' w)
  simpa using hsame

section

variable (htype : c.valueType = .text) (hop : c.operator = .is)

include htype hop

/-- **A test for equality of texts compares what is written of the field.** -/
theorem evaluate_is_withText (m : Moment) {v : Value} (hv : r.field? c.identifier = some v)
    (hnull : v ≠ .null) (p : String) :
    (c.withText p).evaluate m r = .ok (decide (v.literal = p)) := by
  have htextual : c.valueType.isTextual = true := by
    rw [htype]
    rfl
  have harity : c.operator.arity ≠ .nullary := by
    rw [hop]
    decide
  have hsupported : (c.withText p).isSupported = true := by
    rw [isSupported, withText, htype, hop]
    decide
  obtain ⟨n, hn, hoperand⟩ := normalized_withText htextual harity p
  have hnop : n.operator = .is := (normalized_keeps hn).2.2.trans hop
  have hkind : n.operator.textKind? = some .exact := by
    rw [hnop]
    rfl
  have hfield : (c.withText p).valueType.coerce v = .ok (.text v.literal) :=
    ValueType.coerce_of_isTextual htextual hnull
  have hcalm := panics_of_arity (c := c.withText p) harity m (.text v.literal)
  rw [evaluate_eq_holds m hsupported hv hfield hn hcalm, holds_text hkind hoperand, hnop]
  simp [MatchKind.holds, MatchKind.relates, Operator.isNegated, beq_eq_decide, String.toList_inj]

theorem foundBy_of_literal (m : Moment) {v : Value} (hv : r.field? c.identifier = some v)
    (hnull : v ≠ .null) {w : Int} (hw : v.literal = String.ofList (intDigits w)) :
    c.FoundBy m r w := by
  intro i
  rw [withDigits, evaluate_is_withText htype hop m hv hnull, hw, Except.ok.injEq, decide_eq_decide,
    String.ofList_inj, intDigits_inj, eq_comm]

end

/-- **An integer field is found by the digits of one integer.**  Take an integer of 64 bits, and a
    test for equality with a text.  There is an integer whose digits are what is written of the
    field.  Any record with the field is found by its digits and by no others.  It has the same
    nearest double, and up to `2 ^ 53` it is the field itself.  Another field is found by the same
    digits exactly if it has the same nearest double. -/
theorem integerField_foundBy (m : Moment) {c : Condition} (htype : c.valueType = .text)
    (hop : c.operator = .is) {n : Int} (hn : (fitsSigned 64 n || fitsUnsigned 64 n) = true) :
    ∃ w : Int, (Value.number (.ofInt n)).literal = String.ofList (intDigits w) ∧
      Binary64.ofInt w = Binary64.ofInt n ∧ (n.natAbs ≤ 2 ^ 53 → w = n) ∧
      (∀ ms : Members, ms.resolve c.identifier = some (.int n) → c.FoundBy m (.json ms) w) ∧
      ∀ (n' : Int) (ms' : Members), (fitsSigned 64 n' || fitsUnsigned 64 n') = true →
        ms'.resolve c.identifier = some (.int n') →
        (c.FoundBy m (.json ms') w ↔ Binary64.ofInt n' = Binary64.ofInt n) := by
  obtain ⟨w, hsame, htext, hsmall⟩ := Binary64.exists_whole (natAbs_le_of_fits hn)
  have hliteral : (Value.number (.ofInt n)).literal = String.ofList (intDigits w) := by
    rw [Value.literal, htext]
  have hfield : ∀ {n : Int} {ms : Members}, ms.resolve c.identifier = some (.int n) →
      (Record.json ms).field? c.identifier = some (.number (.ofInt n)) := by
    intro n ms hms
    rw [Record.field?, hms]
    rfl
  refine ⟨w, hliteral, hsame, hsmall, ?_, ?_⟩
  · intro ms hms
    exact foundBy_of_literal htype hop m (hfield hms) (by simp) hliteral
  · intro n' ms' hn' hms'
    obtain ⟨w', hsame', htext', -⟩ := Binary64.exists_whole (natAbs_le_of_fits hn')
    constructor
    · intro hfound
      have hliteral' : (Value.number (.ofInt n')).literal = String.ofList (intDigits w') := by
        rw [Value.literal, htext']
      have hfound' := foundBy_of_literal htype hop m (hfield hms') (by simp) hliteral'
      obtain rfl : w = w' := hfound.unique hfound'
      exact hsame'.symm.trans hsame
    · intro hdouble
      apply foundBy_of_literal htype hop m (hfield hms') (by simp)
      rw [hdouble]
      exact hliteral

/-- A negative integer at the end of a path, and the first integer that is no double: it is found by
    the digits of the one below it. -/
theorem integerField_foundBy_path :
    FoundBy { identifier := "user.id", valueType := .text, operator := .is }
        ⟨⟨⟨1970, 1, 1, by decide⟩, .midnight⟩, .utc⟩
        (.json [("user", .object [("id", .int (-9007199254740992))])]) (-9007199254740992) ∧
      FoundBy { identifier := "user.id", valueType := .text, operator := .is }
        ⟨⟨⟨1970, 1, 1, by decide⟩, .midnight⟩, .utc⟩
        (.json [("user", .object [("id", .int 9007199254740993)])]) 9007199254740992 := by
  constructor
  · obtain ⟨w, -, -, hsmall, hfound, -⟩ := integerField_foundBy
      ⟨⟨⟨1970, 1, 1, by decide⟩, .midnight⟩, .utc⟩
      (c := { identifier := "user.id", valueType := .text, operator := .is })
      rfl rfl (n := -9007199254740992) (by decide +kernel)
    rw [hsmall (by decide)] at hfound
    exact hfound _ rfl
  · obtain ⟨w, hliteral, -, -, hfound, -⟩ := integerField_foundBy
      ⟨⟨⟨1970, 1, 1, by decide⟩, .midnight⟩, .utc⟩
      (c := { identifier := "user.id", valueType := .text, operator := .is })
      rfl rfl (n := 9007199254740993) (by decide +kernel)
    have hdigits : (Value.number (.ofInt 9007199254740993)).literal =
        String.ofList (intDigits 9007199254740992) := by decide +kernel
    rw [hdigits, String.ofList_inj, intDigits_inj] at hliteral
    rw [← hliteral] at hfound
    exact hfound _ rfl

/-- The first integer that is no double is missed by its own digits, and found by those of
    another. -/
theorem integerField_missed_by_own_digits :
    (fitsSigned 64 9007199254740993 = true ∧
      Members.resolve [("id", .int 9007199254740993)] "id" = some (.int 9007199254740993)) ∧
    evaluate ⟨⟨⟨1970, 1, 1, by decide⟩, .midnight⟩, .utc⟩
        { identifier := "id", valueType := .text, operator := .is,
          operand := some (.text "9007199254740993") }
        (.json [("id", .int 9007199254740993)]) = .ok false ∧
    evaluate ⟨⟨⟨1970, 1, 1, by decide⟩, .midnight⟩, .utc⟩
        { identifier := "id", valueType := .text, operator := .is,
          operand := some (.text "9007199254740992") }
        (.json [("id", .int 9007199254740993)]) = .ok true := by
  refine ⟨⟨?_, rfl⟩, ?_, ?_⟩
  · decide +kernel
  · decide +kernel
  · decide +kernel

end Condition

end Criteria
