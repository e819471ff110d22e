/-
  Criteria/Proofs/Offset/Octets.lean
  ==================================
  **Reading an offset octet by octet never faults.**  A text is held in octets, and
  the reader counts in them: it looks at the first octet for a sign, goes on at the
  second, and takes four octets for hours and minutes of two each.  It then computes
  in words of 32 bits.  So a slice may start inside a character, and a word may
  overflow; either would be a fault, not an answer (`checkedRead`).

  Neither happens, and the answer is the one that characters and whole numbers give
  (`checkedRead_eq`).  The first octet is a sign only if the first character is, and
  that is one octet.  A text whose characters are not all single octets may be parted
  elsewhere than its characters are; but then it has a character that no number has,
  and neither way of parting it gives an offset.
-/
import Criteria.Number.Powers
import Criteria.Proofs.Offset.Grammar
import Criteria.Proofs.Text.Octets

namespace Criteria

namespace Offset

open Text

/-! ### Reading with faults -/

/-- What a reading can break off with. -/
inductive Fault where
  /-- A slice that starts inside a character or behind the end. -/
  | insideCharacter
  /-- A number that a word of 32 bits does not hold. -/
  | overflow
  deriving DecidableEq, Repr

def sliceFrom (n : Nat) (cs : List Char) : Except Fault (List Char) :=
  match cut? n cs with
  | some (_, rest) => .ok rest
  | none => .error .insideCharacter

/-- A result of arithmetic, held in a word of 32 bits. -/
def inWord (i : Int) : Except Fault Int :=
  if fitsSigned 32 i then .ok i else .error .overflow

/-- A whole number that a text writes, if a word of 32 bits holds it; another is no fault. -/
def readWord? (cs : List Char) : Option Int := (readInt cs).filter (fitsSigned 32)

/-- Hours and minutes: divided by a colon, or two octets each if there are four, or hours alone. -/
def octetParts? (cs : List Char) : Option (List Char × List Char) :=
  match cutAt ':' cs with
  | some parts => some parts
  | none => if width cs = 4 then cut? 2 cs else some (cs, ['0'])

def checkedSeconds (hours minutes : Int) : Except Fault Int := do
  let h ← inWord (hours * 3600)
  let m ← inWord (minutes * 60)
  inWord (h + m)

def checkedParts (parts : List Char × List Char) : Except Fault (Option Int) :=
  match readWord? parts.1, readWord? parts.2 with
  | some hours, some minutes =>
    if 0 ≤ hours ∧ hours ≤ 23 ∧ 0 ≤ minutes ∧ minutes ≤ 59 then
      (checkedSeconds hours minutes).map some
    else .ok none
  | _, _ => .ok none

def checkedMagnitude (cs : List Char) : Except Fault (Option Int) :=
  match octetParts? cs with
  | some parts => checkedParts parts
  | none => .ok none

def signOf? (octet : UInt8) : Option Int :=
  if octet = 0x2B then some 1 else if octet = 0x2D then some (-1) else none

/-- The offset that a text writes, read by octets and computed in words. -/
def checkedRead (s : List Char) : Except Fault (Option Offset) :=
  let cs := trim s
  if sameName cs "utc".toList ∨ cs = ['Z'] then .ok (some utc)
  else match (octets cs).head?.bind signOf? with
    | none => .ok none
    | some sign => do
      let rest ← sliceFrom 1 cs
      match ← checkedMagnitude rest with
      | none => return none
      | some seconds => return ofSeconds? (← inWord (sign * seconds))

/-! ### Words -/

theorem inWord_eq_ok {i : Int} (h : -86400 < i ∧ i < 86400) : inWord i = .ok i := by
  have hfits : fitsSigned 32 i = true := by
    have htwo : (twoTo (32 - 1) : Int) = 2147483648 := by decide
    simp only [fitsSigned, htwo, Bool.and_eq_true, decide_eq_true_eq]
    omega
  rw [inWord, if_pos hfits]

theorem checkedSeconds_eq_ok {hours minutes : Int} (hhours : 0 ≤ hours ∧ hours ≤ 23)
    (hminutes : 0 ≤ minutes ∧ minutes ≤ 59) :
    checkedSeconds hours minutes = .ok (hours * 3600 + minutes * 60) := by
  have hfirst := inWord_eq_ok (i := hours * 3600) (by omega)
  have hsecond := inWord_eq_ok (i := minutes * 60) (by omega)
  have hsum := inWord_eq_ok (i := hours * 3600 + minutes * 60) (by omega)
  simp only [checkedSeconds, hfirst, hsecond, hsum, bind, Except.bind]

theorem readIntIn_eq_some_iff_readWord? {cs : List Char} {hi i : Int} (hhi : hi ≤ 59) :
    readIntIn 0 hi cs = some i ↔ readWord? cs = some i ∧ 0 ≤ i ∧ i ≤ hi := by
  have htwo : (twoTo (32 - 1) : Int) = 2147483648 := by decide
  simp only [readIntIn, readWord?, fitsSigned, htwo, Option.filter_eq_some_iff, Bool.and_eq_true,
    decide_eq_true_eq]
  constructor
  · rintro ⟨hread, hlow, hhigh⟩
    exact ⟨⟨hread, by omega, by omega⟩, hlow, hhigh⟩
  · rintro ⟨⟨hread, -⟩, hlow, hhigh⟩
    exact ⟨hread, hlow, hhigh⟩

/-! ### Magnitudes -/

def secondsOf? (parts : List Char × List Char) : Option Int := do
  let hours ← readIntIn 0 23 parts.1
  let minutes ← readIntIn 0 59 parts.2
  return hours * 3600 + minutes * 60

theorem readMagnitude_eq (cs : List Char) : readMagnitude cs = secondsOf? (hoursAndMinutes cs) :=
  rfl

theorem secondsOf?_eq_some_iff {parts : List Char × List Char} {s : Int} :
    secondsOf? parts = some s ↔ ∃ hours minutes : Int, readWord? parts.1 = some hours ∧
      readWord? parts.2 = some minutes ∧
      (0 ≤ hours ∧ hours ≤ 23 ∧ 0 ≤ minutes ∧ minutes ≤ 59) ∧
      s = hours * 3600 + minutes * 60 := by
  simp only [secondsOf?, Option.bind_eq_bind, Option.bind_eq_some_iff, Option.pure_def,
    Option.some.injEq, readIntIn_eq_some_iff_readWord? (show (23 : Int) ≤ 59 by decide),
    readIntIn_eq_some_iff_readWord? (show (59 : Int) ≤ 59 by decide)]
  constructor
  · rintro ⟨hours, ⟨hh, hh0, hh23⟩, minutes, ⟨hm, hm0, hm59⟩, rfl⟩
    exact ⟨hours, minutes, hh, hm, ⟨hh0, hh23, hm0, hm59⟩, rfl⟩
  · rintro ⟨hours, minutes, hh, hm, ⟨hh0, hh23, hm0, hm59⟩, rfl⟩
    exact ⟨hours, ⟨hh, hh0, hh23⟩, minutes, ⟨hm, hm0, hm59⟩, rfl⟩

theorem secondsOf?_eq (parts : List Char × List Char) :
    secondsOf? parts = (readWord? parts.1).bind fun hours => (readWord? parts.2).bind fun minutes =>
      if 0 ≤ hours ∧ hours ≤ 23 ∧ 0 ≤ minutes ∧ minutes ≤ 59 then
        some (hours * 3600 + minutes * 60)
      else none := by
  apply Option.ext
  intro s
  simp only [secondsOf?_eq_some_iff, Option.bind_eq_some_iff, Option.ite_none_right_eq_some,
    Option.some.injEq]
  constructor
  · rintro ⟨hours, minutes, hh, hm, hrange, rfl⟩
    exact ⟨hours, hh, minutes, hm, hrange, rfl⟩
  · rintro ⟨hours, hh, minutes, hm, hrange, rfl⟩
    exact ⟨hours, minutes, hh, hm, hrange, rfl⟩

theorem checkedParts_eq (parts : List Char × List Char) :
    checkedParts parts = .ok (secondsOf? parts) := by
  rw [secondsOf?_eq, checkedParts]
  cases readWord? parts.1 with
  | none => rfl
  | some hours =>
    cases readWord? parts.2 with
    | none => rfl
    | some minutes =>
      simp only [Option.bind_some]
      split_ifs with hrange
      · obtain ⟨hh0, hh23, hminutes⟩ := hrange
        rw [checkedSeconds_eq_ok ⟨hh0, hh23⟩ hminutes]
        rfl
      · rfl

theorem utf8Size_of_allowed {c : Char} (hc : isDigit c = true ∨ c = '+' ∨ c = '-') :
    c.utf8Size = 1 := by
  rw [Char.utf8Size_eq_one_iff, UInt32.le_iff_toNat_le]
  rcases hc with hc | rfl | rfl
  · exact (toNat_of_isDigit hc).2.trans (by decide)
  · decide
  · decide

theorem utf8Size_of_readWord? {cs : List Char} {i : Int} (h : readWord? cs = some i) {c : Char}
    (hc : c ∈ cs) : c.utf8Size = 1 := by
  have hread : readInt cs = some i := (Option.filter_eq_some_iff.mp h).1
  exact utf8Size_of_allowed ((readInt_eq_some_iff.mp hread).mem hc)

/-- Parts that have all of a text but colons. -/
def Covers (parts : List Char × List Char) (cs : List Char) : Prop :=
  ∀ c ∈ cs, c ∈ parts.1 ∨ c ∈ parts.2 ∨ c = ':'

/-- **A character of several octets is in no number**, wherever the text is parted. -/
theorem secondsOf?_eq_none {parts : List Char × List Char} {cs : List Char}
    (hcovers : Covers parts cs) (hwide : ¬ ∀ c ∈ cs, c.utf8Size = 1) :
    secondsOf? parts = none := by
  rw [Option.eq_none_iff_forall_ne_some]
  intro s hs
  obtain ⟨hours, minutes, hh, hm, -⟩ := secondsOf?_eq_some_iff.mp hs
  apply hwide
  intro c hc
  rcases hcovers c hc with hc | hc | rfl
  · exact utf8Size_of_readWord? hh hc
  · exact utf8Size_of_readWord? hm hc
  · decide

theorem covers_cut {cs front rest : List Char} (h : cutAt ':' cs = some (front, rest)) :
    Covers (front, rest) cs := by
  intro c hc
  rw [(cutAt_eq_some_iff.mp h).1, List.mem_append, List.mem_cons] at hc
  tauto

theorem covers_append (front rest : List Char) : Covers (front, rest) (front ++ rest) := by
  intro c hc
  rw [List.mem_append] at hc
  tauto

theorem covers_whole (cs rest : List Char) : Covers (cs, rest) cs := fun _ hc => .inl hc

theorem covers_octetParts? {cs : List Char} {parts : List Char × List Char}
    (h : octetParts? cs = some parts) : Covers parts cs := by
  unfold octetParts? at h
  split at h
  · next hcut =>
    rw [Option.some.injEq] at h
    rw [← h]
    exact covers_cut hcut
  · split_ifs at h with hfour
    · rw [cut?_append h]
      exact covers_append _ _
    · rw [Option.some.injEq] at h
      rw [← h]
      exact covers_whole _ _

theorem covers_hoursAndMinutes (cs : List Char) : Covers (hoursAndMinutes cs) cs := by
  cases hcut : cutAt ':' cs with
  | some parts =>
    simp only [hoursAndMinutes, hcut]
    exact covers_cut hcut
  | none =>
    simp only [hoursAndMinutes, hcut]
    split_ifs with hfour
    · have happend := covers_append (cs.take 2) (cs.drop 2)
      rwa [List.take_append_drop] at happend
    · exact covers_whole _ _

theorem octetParts?_of_narrow {cs : List Char} (hnarrow : ∀ c ∈ cs, c.utf8Size = 1) :
    octetParts? cs = some (hoursAndMinutes cs) := by
  cases hcut : cutAt ':' cs with
  | some parts => simp only [octetParts?, hoursAndMinutes, hcut]
  | none =>
    simp only [octetParts?, hoursAndMinutes, hcut, width_eq_length hnarrow]
    split_ifs with hfour
    · exact cut?_of_narrow hnarrow (by omega)
    · rfl

/-- **Magnitudes are read without a fault**, and as by characters. -/
theorem checkedMagnitude_eq (cs : List Char) : checkedMagnitude cs = .ok (readMagnitude cs) := by
  rw [readMagnitude_eq]
  by_cases hnarrow : ∀ c ∈ cs, c.utf8Size = 1
  · rw [checkedMagnitude, octetParts?_of_narrow hnarrow]
    exact checkedParts_eq _
  -- The text may be parted in two places, and gives nothing in either.
  · rw [secondsOf?_eq_none (covers_hoursAndMinutes cs) hnarrow]
    cases hparts : octetParts? cs with
    | none => rw [checkedMagnitude, hparts]
    | some parts =>
      rw [checkedMagnitude, hparts, ← secondsOf?_eq_none (covers_octetParts? hparts) hnarrow]
      exact checkedParts_eq parts

/-! ### Signs -/

/-- The first octet is a sign exactly if the first character is. -/
theorem signOf?_octets_cons (c : Char) (cs : List Char) :
    (octets (c :: cs)).head?.bind signOf? =
      if c = '+' then some 1 else if c = '-' then some (-1) else none := by
  have hplus : (String.utf8EncodeChar c).head? = some 0x2B ↔ c = '+' :=
    head?_utf8EncodeChar_iff (d := '+') (by decide)
  have hminus : (String.utf8EncodeChar c).head? = some 0x2D ↔ c = '-' :=
    head?_utf8EncodeChar_iff (d := '-') (by decide)
  rw [head?_octets_cons]
  cases hhead : (String.utf8EncodeChar c).head? with
  | none => exact absurd (List.head?_eq_none_iff.mp hhead) String.utf8EncodeChar_ne_nil
  | some b =>
    rw [hhead, Option.some.injEq] at hplus hminus
    simp only [Option.bind_some, signOf?, hplus, hminus]

theorem sliceFrom_one {c : Char} (hc : c.utf8Size = 1) (cs : List Char) :
    sliceFrom 1 (c :: cs) = .ok cs := by
  simp [sliceFrom, cut?, hc]

theorem readMagnitude_bounds {cs : List Char} {s : Int} (h : readMagnitude cs = some s) :
    0 ≤ s ∧ s < 86400 := by
  obtain ⟨hours, minutes, -, hh, hm, rfl⟩ := readMagnitude_eq_some_iff.mp h
  omega

theorem checkedRead_signed {s cs : List Char} {c : Char} {sign : Int} (hcs : trim s = c :: cs)
    (hname : ¬ (sameName (c :: cs) "utc".toList = true ∨ c :: cs = ['Z'])) (hc : c.utf8Size = 1)
    (hsign : (octets (c :: cs)).head?.bind signOf? = some sign) (hone : sign = 1 ∨ sign = -1) :
    checkedRead s = .ok ((readMagnitude cs).bind fun seconds => ofSeconds? (sign * seconds)) := by
  unfold checkedRead
  simp only [hcs, if_neg hname, hsign, sliceFrom_one hc, checkedMagnitude_eq, bind, Except.bind,
    pure, Except.pure]
  cases hread : readMagnitude cs with
  | none => rfl
  | some seconds =>
    obtain ⟨hlow, hhigh⟩ := readMagnitude_bounds hread
    have hword : inWord (sign * seconds) = .ok (sign * seconds) := by
      apply inWord_eq_ok
      rcases hone with rfl | rfl
      · omega
      · omega
    simp only [hword, Option.bind_some]

/-- **An offset is read without a fault**, and as by characters and whole numbers. -/
theorem checkedRead_eq (s : List Char) : checkedRead s = .ok (read? s) := by
  by_cases hname : sameName (trim s) "utc".toList = true ∨ trim s = ['Z']
  · rw [checkedRead, if_pos hname, read?, if_pos hname]
  · cases hcs : trim s with
    | nil =>
      rw [checkedRead, if_neg hname, read?, if_neg hname, hcs]
      rfl
    | cons c cs =>
      have hsign := signOf?_octets_cons c cs
      rw [hcs] at hname
      by_cases hplus : c = '+'
      · subst hplus
        rw [checkedRead_signed hcs hname (by decide) hsign (.inl rfl), read?_of_east hcs]
        simp only [one_mul]
      · by_cases hminus : c = '-'
        · subst hminus
          rw [checkedRead_signed hcs hname (by decide) hsign (.inr rfl), read?_of_west hcs]
          simp only [neg_one_mul]
        · rw [if_neg hplus, if_neg hminus] at hsign
          have hnone : read? s = none := by
            rw [Option.eq_none_iff_forall_ne_some]
            intro z hz
            have hspelling := read?_eq_some_iff.mp hz
            rw [hcs] at hspelling
            cases hspelling with
            | name h _ => exact hname h
            | east _ _ _ _ => exact hplus rfl
            | west _ _ _ _ => exact hminus rfl
          rw [hnone, checkedRead]
          simp only [hcs, if_neg hname, hsign]

end Offset

end Criteria
