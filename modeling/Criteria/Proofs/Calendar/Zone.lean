/-
  Criteria/Proofs/Calendar/Zone.lean
  ==================================
  **Zones read back from their text.**  A zone that was read from a text is a
  number of whole minutes, so its text, which has hours and minutes alone, loses
  nothing of it.  The text of any other offset can be read too, and writes what is
  left of the offset without its odd seconds.
-/
import Criteria.Calendar.Offset
import Criteria.Proofs.Text.Blank
import Criteria.Proofs.Text.Digits

namespace Criteria

open Text

/-- The seconds east of universal time that a text of sign, hours and minutes writes. -/
def Calendar.secondsEast? : List Char → Option Int
  | [sign, h, h', ':', m, m'] => do
    let hours ← Text.readNat [h, h']
    let minutes ← Text.readNat [m, m']
    let seconds : Int := 3600 * hours + 60 * minutes
    if sign = '+' then some seconds else if sign = '-' then some (-seconds) else none
  | _ => none

theorem Calendar.secondsEast?_fixedDigits (sign : Char) {hours minutes : Nat} (hhours : hours < 100)
    (hminutes : minutes < 100) :
    secondsEast? (sign :: (Text.fixedDigits 2 hours ++ ':' :: Text.fixedDigits 2 minutes)) =
      if sign = '+' then some (3600 * hours + 60 * minutes : Int)
      else if sign = '-' then some (-(3600 * hours + 60 * minutes : Int)) else none := by
  have hread := Text.readNat_fixedDigits 1 hhours
  have hread' := Text.readNat_fixedDigits 1 hminutes
  simp only [Text.fixedDigits, List.nil_append, List.singleton_append] at hread hread'
  simp only [Text.fixedDigits, List.nil_append, List.cons_append, secondsEast?, hread,
    hread', Option.bind_eq_bind, Option.bind_some]

namespace Offset

theorem ofSeconds?_eq_some {s : Int} {z : Offset} (h : ofSeconds? s = some z) :
    z.seconds = s := by
  unfold ofSeconds? at h
  obtain ⟨_, hz⟩ := Option.dite_none_right_eq_some.mp h
  rw [← Option.some.inj hz]

theorem readMagnitude_mod {cs : List Char} {s : Int} (h : readMagnitude cs = some s) :
    s % 60 = 0 := by
  simp only [readMagnitude, Option.bind_eq_bind, Option.bind_eq_some_iff, Option.pure_def,
    Option.some.injEq] at h
  obtain ⟨hours, _, minutes, _, rfl⟩ := h
  omega

/-- **A zone that is read from a text is whole minutes.** -/
theorem read?_mod {s : List Char} {z : Offset} (h : read? s = some z) : z.seconds % 60 = 0 := by
  unfold read? at h
  simp only at h
  split at h
  · rw [← Option.some.inj h]
    rfl
  · split at h
    · obtain ⟨m, hm, hz⟩ := Option.bind_eq_some_iff.mp h
      rw [ofSeconds?_eq_some hz]
      exact readMagnitude_mod hm
    · obtain ⟨m, hm, hz⟩ := Option.bind_eq_some_iff.mp h
      have := readMagnitude_mod hm
      rw [ofSeconds?_eq_some hz]
      omega
    · exact nomatch h

/-- **The text of whole minutes writes the zone.** -/
theorem secondsEast?_text {z : Offset} (h : z.seconds % 60 = 0) :
    Calendar.secondsEast? z.text = some z.seconds := by
  obtain ⟨hlow, hhigh⟩ := z.bounded
  rw [text, Calendar.secondsEast?_fixedDigits _ (by omega) (by omega)]
  by_cases hneg : z.seconds < 0
  · rw [if_pos hneg, if_neg (by decide), if_pos rfl]
    exact congrArg some (by omega)
  · rw [if_neg hneg, if_pos rfl]
    exact congrArg some (by omega)

/-! ### Every offset -/

theorem ofSeconds?_seconds (z : Offset) : ofSeconds? z.seconds = some z := dif_pos z.bounded

/-- What is left of an offset without its odd seconds. -/
def wholeMinutes (z : Offset) : Offset where
  seconds := if z.seconds < 0 then -(60 * (-z.seconds / 60)) else 60 * (z.seconds / 60)
  bounded := by
    obtain ⟨hlow, hhigh⟩ := z.bounded
    split <;> omega

theorem wholeMinutes_of_mod {z : Offset} (h : z.seconds % 60 = 0) : z.wholeMinutes = z := by
  have hseconds : z.wholeMinutes.seconds = z.seconds := by
    simp only [wholeMinutes]
    split <;> omega
  obtain ⟨s, hs⟩ := z
  simp only [wholeMinutes] at hseconds ⊢
  simp only [hseconds]

theorem readMagnitude_fixedDigits {hours minutes : Nat} (hhours : hours ≤ 23)
    (hminutes : minutes ≤ 59) :
    readMagnitude (fixedDigits 2 hours ++ ':' :: fixedDigits 2 minutes) =
      some (hours * 3600 + minutes * 60 : Int) := by
  have hcolon : ':' ∉ fixedDigits 2 hours := by
    intro hmem
    exact absurd (isDigit_of_mem_fixedDigits hmem) (by decide)
  have hours' : readIntIn 0 23 (fixedDigits 2 hours) = some (hours : Int) :=
    readIntIn_fixedDigits 1 (by omega) (by omega) (by omega)
  have minutes' : readIntIn 0 59 (fixedDigits 2 minutes) = some (minutes : Int) :=
    readIntIn_fixedDigits 1 (by omega) (by omega) (by omega)
  simp only [readMagnitude, hoursAndMinutes, cutAt_append hcolon, hours', minutes',
    Option.bind_eq_bind, Option.bind_some, Option.pure_def]

theorem trim_text (z : Offset) : trim z.text = z.text := by
  apply trim_eq_self
  · intro c hc
    rw [← Option.mem_some_iff.mp hc]
    split <;> decide
  · intro c hc
    have hmem : c ∈ fixedDigits 2 (z.seconds.natAbs % 3600 / 60) := by
      simp only [text, fixedDigits, List.nil_append, List.cons_append, List.getLast?_cons_cons,
        List.getLast?_singleton, Option.mem_some_iff] at hc
      simp [fixedDigits, ← hc]
    exact isBlank_of_isDigit (isDigit_of_mem_fixedDigits hmem)

/-- **Every offset can be read from its text**, its odd seconds aside. -/
theorem read?_text (z : Offset) : read? z.text = some z.wholeMinutes := by
  obtain ⟨hlow, hhigh⟩ := z.bounded
  have hname : ¬ (sameName z.text "utc".toList = true ∨ z.text = ['Z']) := by
    simp [text, fixedDigits, sameName]
  have hmagnitude : readMagnitude (fixedDigits 2 (z.seconds.natAbs / 3600) ++
      ':' :: fixedDigits 2 (z.seconds.natAbs % 3600 / 60)) =
        some ((z.seconds.natAbs / 3600 : Nat) * 3600 +
          (z.seconds.natAbs % 3600 / 60 : Nat) * 60 : Int) :=
    readMagnitude_fixedDigits (by omega) (by omega)
  unfold read?
  simp only [trim_text, if_neg hname]
  by_cases hneg : z.seconds < 0
  · have hseconds : -((z.seconds.natAbs / 3600 : Nat) * 3600 +
        (z.seconds.natAbs % 3600 / 60 : Nat) * 60 : Int) = z.wholeMinutes.seconds := by
      simp only [wholeMinutes, if_pos hneg]
      omega
    simp only [text, if_pos hneg, hmagnitude, Option.bind_some, hseconds]
    exact ofSeconds?_seconds z.wholeMinutes
  · have hseconds : ((z.seconds.natAbs / 3600 : Nat) * 3600 +
        (z.seconds.natAbs % 3600 / 60 : Nat) * 60 : Int) = z.wholeMinutes.seconds := by
      simp only [wholeMinutes, if_neg hneg]
      omega
    simp only [text, if_neg hneg, hmagnitude, Option.bind_some, hseconds]
    exact ofSeconds?_seconds z.wholeMinutes

end Offset

end Criteria
