/-
  Criteria/Proofs/Offset/Grammar.lean
  ===================================
  **Which texts write an offset.**  A name of universal time does, and a sign with
  hours and minutes in one of three shapes.  The shapes do not say how a number is
  written, so that one grammar can be asked two things.  With digits alone it is
  what offsets are meant to be written in, and whatever it derives is read as it
  says.  With numbers that may have a sign of their own it is what is read: hours
  and minutes go through the reader of whole numbers, which lets a second sign pass.
-/
import Criteria.Proofs.Calendar.Zone

namespace Criteria

namespace Offset

open Text

/-! ### Shapes -/

section

variable (writes : Nat → List Char → Prop)

/-- Hours and minutes without the sign of the offset. -/
inductive Shape : (hours minutes : Nat) → List Char → Prop where
  /-- Hours alone, in any number of characters but four. -/
  | hours {h : Nat} {hs : List Char} (hhours : writes h hs) (hlength : hs.length ≠ 4) :
      Shape h 0 hs
  | divided {h m : Nat} {hs ms : List Char} (hhours : writes h hs) (hminutes : writes m ms) :
      Shape h m (hs ++ ':' :: ms)
  /-- Two characters each. -/
  | joined {h m : Nat} {hs ms : List Char} (hhours : writes h hs) (hminutes : writes m ms)
      (hlength : hs.length = 2) (hlength' : ms.length = 2) : Shape h m (hs ++ ms)

/-- The texts that write an offset, nothing around them. -/
inductive Spelling (z : Offset) : List Char → Prop where
  | name {cs : List Char} (hname : sameName cs "utc".toList = true ∨ cs = ['Z'])
      (hz : z.seconds = 0) : Spelling z cs
  | east {h m : Nat} {cs : List Char} (hshape : Shape writes h m cs) (hhours : h ≤ 23)
      (hminutes : m ≤ 59) (hz : z.seconds = h * 3600 + m * 60) : Spelling z ('+' :: cs)
  | west {h m : Nat} {cs : List Char} (hshape : Shape writes h m cs) (hhours : h ≤ 23)
      (hminutes : m ≤ 59) (hz : z.seconds = -(h * 3600 + m * 60)) : Spelling z ('-' :: cs)

end

/-- A number that may have a sign of its own. -/
def IsSigned (n : Nat) (cs : List Char) : Prop := IsSignedNumeral n cs

section

variable {writes writes' : Nat → List Char → Prop} {h m : Nat} {cs : List Char}

/-- What one way of writing numbers allows, another does that allows all its numbers; only those
    within the text count. -/
theorem Shape.imp (hshape : Shape writes h m cs)
    (himp : ∀ n ds, (∀ c ∈ ds, c ∈ cs) → writes n ds → writes' n ds) : Shape writes' h m cs := by
  cases hshape with
  | hours hhours hlength => exact .hours (himp _ _ (fun _ hc => hc) hhours) hlength
  | divided hhours hminutes =>
    refine .divided (himp _ _ ?_ hhours) (himp _ _ ?_ hminutes)
    · intro c hc
      exact List.mem_append_left _ hc
    · intro c hc
      exact List.mem_append_right _ (List.mem_cons_of_mem _ hc)
  | joined hhours hminutes hlength hlength' =>
    refine .joined (himp _ _ ?_ hhours) (himp _ _ ?_ hminutes) hlength hlength'
    · intro c hc
      exact List.mem_append_left _ hc
    · intro c hc
      exact List.mem_append_right _ hc

theorem Spelling.imp {z : Offset} (hspelling : Spelling writes z cs)
    (himp : ∀ n ds, (∀ c ∈ ds, c ∈ cs.tail) → writes n ds → writes' n ds) :
    Spelling writes' z cs := by
  cases hspelling with
  | name hname hz => exact .name hname hz
  | east hshape hhours hminutes hz => exact .east (hshape.imp himp) hhours hminutes hz
  | west hshape hhours hminutes hz => exact .west (hshape.imp himp) hhours hminutes hz

theorem Shape.mem {allowed : Char → Prop} (hshape : Shape writes h m cs)
    (hwrites : ∀ n ds, writes n ds → ∀ c ∈ ds, allowed c) {c : Char} (hc : c ∈ cs) :
    allowed c ∨ c = ':' := by
  cases hshape with
  | hours hhours _ => exact .inl (hwrites _ _ hhours c hc)
  | divided hhours hminutes =>
    rcases List.mem_append.mp hc with hc | hc
    · exact .inl (hwrites _ _ hhours c hc)
    · rcases List.mem_cons.mp hc with rfl | hc
      · exact .inr rfl
      · exact .inl (hwrites _ _ hminutes c hc)
  | joined hhours hminutes _ _ =>
    rcases List.mem_append.mp hc with hc | hc
    · exact .inl (hwrites _ _ hhours c hc)
    · exact .inl (hwrites _ _ hminutes c hc)

end

/-! ### What is read -/

theorem colon_not_mem {n : Nat} {cs : List Char} (h : IsSigned n cs) : ':' ∉ cs := by
  intro hc
  exact absurd (h.mem hc) (by decide)

theorem hoursAndMinutes_divided {hs : List Char} (hcolon : ':' ∉ hs) (ms : List Char) :
    hoursAndMinutes (hs ++ ':' :: ms) = (hs, ms) := by
  simp only [hoursAndMinutes, cutAt_append hcolon]

theorem hoursAndMinutes_joined {hs ms : List Char} (hcolon : ':' ∉ hs ++ ms)
    (hlength : hs.length = 2) (hlength' : ms.length = 2) :
    hoursAndMinutes (hs ++ ms) = (hs, ms) := by
  have hfour : (hs ++ ms).length = 4 := by
    rw [List.length_append, hlength, hlength']
  rw [hoursAndMinutes, cutAt_eq_none_iff.mpr hcolon]
  simp only [if_pos hfour, ← hlength, List.take_left, List.drop_left]

theorem hoursAndMinutes_hours {hs : List Char} (hcolon : ':' ∉ hs) (hlength : hs.length ≠ 4) :
    hoursAndMinutes hs = (hs, ['0']) := by
  rw [hoursAndMinutes, cutAt_eq_none_iff.mpr hcolon]
  simp only [if_neg hlength]

theorem isSigned_zero_iff {m : Nat} : IsSigned m ['0'] ↔ m = 0 := by
  rw [IsSigned, ← readInt_eq_some_iff]
  constructor
  · intro h
    exact (Int.ofNat_inj.mp (Option.some.inj h)).symm
  · rintro rfl
    rfl

/-- **The three shapes are what hours and minutes are parted from.** -/
theorem shape_iff {h m : Nat} {cs : List Char} :
    Shape IsSigned h m cs ↔
      IsSigned h (hoursAndMinutes cs).1 ∧ IsSigned m (hoursAndMinutes cs).2 := by
  constructor
  -- No number has a colon, so a text is cut at the colon of its shape.
  · intro hshape
    cases hshape with
    | hours hhours hlength =>
      rw [hoursAndMinutes_hours (colon_not_mem hhours) hlength]
      exact ⟨hhours, isSigned_zero_iff.mpr rfl⟩
    | divided hhours hminutes =>
      rw [hoursAndMinutes_divided (colon_not_mem hhours)]
      exact ⟨hhours, hminutes⟩
    | joined hhours hminutes hlength hlength' =>
      have hcolon := List.not_mem_append (colon_not_mem hhours) (colon_not_mem hminutes)
      rw [hoursAndMinutes_joined hcolon hlength hlength']
      exact ⟨hhours, hminutes⟩
  · rintro ⟨hhours, hminutes⟩
    unfold hoursAndMinutes at hhours hminutes
    cases hcut : cutAt ':' cs with
    | some parts =>
      obtain ⟨hs, ms⟩ := parts
      simp only [hcut] at hhours hminutes
      rw [(cutAt_eq_some_iff.mp hcut).1]
      exact .divided hhours hminutes
    | none =>
      simp only [hcut] at hhours hminutes
      by_cases hlength : cs.length = 4
      · rw [if_pos hlength] at hhours hminutes
        rw [← List.take_append_drop 2 cs]
        exact .joined hhours hminutes (by simp [hlength]) (by simp [hlength])
      · rw [if_neg hlength] at hhours hminutes
        rw [isSigned_zero_iff.mp hminutes]
        exact .hours hhours hlength

/-- **A magnitude is read exactly from the three shapes.** -/
theorem readMagnitude_eq_some_iff {cs : List Char} {s : Int} :
    readMagnitude cs = some s ↔
      ∃ h m, Shape IsSigned h m cs ∧ h ≤ 23 ∧ m ≤ 59 ∧ s = h * 3600 + m * 60 := by
  simp only [readMagnitude, Option.bind_eq_bind, Option.bind_eq_some_iff, Option.pure_def,
    Option.some.injEq, shape_iff]
  constructor
  · rintro ⟨hours, hhours, minutes, hminutes, rfl⟩
    obtain ⟨h, rfl, hh, hhs⟩ := readIntIn_eq_some_iff.mp hhours
    obtain ⟨m, rfl, hm, hms⟩ := readIntIn_eq_some_iff.mp hminutes
    exact ⟨h, m, ⟨hhs, hms⟩, hh, hm, rfl⟩
  · rintro ⟨h, m, ⟨hhs, hms⟩, hh, hm, rfl⟩
    exact ⟨h, readIntIn_eq_some_iff.mpr ⟨h, rfl, hh, hhs⟩, m,
      readIntIn_eq_some_iff.mpr ⟨m, rfl, hm, hms⟩, rfl⟩

theorem ofSeconds?_eq_some_iff {s : Int} {z : Offset} : ofSeconds? s = some z ↔ z.seconds = s := by
  constructor
  · exact ofSeconds?_eq_some
  · rintro rfl
    exact ofSeconds?_seconds z

theorem utc_eq_iff {z : Offset} : utc = z ↔ z.seconds = 0 := by
  constructor
  · rintro rfl
    rfl
  · intro hz
    obtain ⟨s, hs⟩ := z
    simp only at hz
    subst hz
    rfl

section

variable {s r : List Char}

theorem read?_of_east (h : trim s = '+' :: r) : read? s = (readMagnitude r).bind ofSeconds? := by
  have hname : ¬ (sameName ('+' :: r) "utc".toList = true ∨ '+' :: r = ['Z']) := by
    simp [sameName]
  rw [read?, h]
  exact if_neg hname

theorem read?_of_west (h : trim s = '-' :: r) :
    read? s = (readMagnitude r).bind fun seconds => ofSeconds? (-seconds) := by
  have hname : ¬ (sameName ('-' :: r) "utc".toList = true ∨ '-' :: r = ['Z']) := by
    simp [sameName]
  rw [read?, h]
  exact if_neg hname

end

theorem readMagnitude_bind_eq_some_iff {cs : List Char} {sign : Int → Int} {z : Offset} :
    ((readMagnitude cs).bind fun s => ofSeconds? (sign s)) = some z ↔
      ∃ h m : Nat, Shape IsSigned h m cs ∧ h ≤ 23 ∧ m ≤ 59 ∧
        z.seconds = sign (h * 3600 + m * 60) := by
  simp only [Option.bind_eq_some_iff, readMagnitude_eq_some_iff, ofSeconds?_eq_some_iff]
  constructor
  · rintro ⟨s, ⟨h, m, hshape, hh, hm, rfl⟩, hz⟩
    exact ⟨h, m, hshape, hh, hm, hz⟩
  · rintro ⟨h, m, hshape, hh, hm, hz⟩
    exact ⟨_, ⟨h, m, hshape, hh, hm, rfl⟩, hz⟩

/-- **An offset is read exactly from its spellings**, where the numbers may have signs. -/
theorem read?_eq_some_iff {s : List Char} {z : Offset} :
    read? s = some z ↔ Spelling IsSigned z (trim s) := by
  constructor
  -- The branches of the reader that give an offset are the rules of the grammar.
  · intro h
    unfold read? at h
    simp only at h
    split at h
    · next hname => exact .name hname (utc_eq_iff.mp (Option.some.inj h))
    · split at h
      · next hcs =>
        obtain ⟨hours, minutes, hshape, hh, hm, hz⟩ :=
          readMagnitude_bind_eq_some_iff.mp h
        rw [hcs]
        exact .east hshape hh hm hz
      · next hcs =>
        obtain ⟨hours, minutes, hshape, hh, hm, hz⟩ := readMagnitude_bind_eq_some_iff.mp h
        rw [hcs]
        exact .west hshape hh hm hz
      · exact nomatch h
  · intro h
    generalize hcs : trim s = cs at h
    cases h with
    | name hname hz =>
      rw [← hcs] at hname
      rw [read?, ← utc_eq_iff.mpr hz]
      exact if_pos hname
    | east hshape hh hm hz =>
      rw [read?_of_east hcs]
      exact readMagnitude_bind_eq_some_iff.mpr ⟨_, _, hshape, hh, hm, hz⟩
    | west hshape hh hm hz =>
      rw [read?_of_west hcs]
      exact readMagnitude_bind_eq_some_iff.mpr ⟨_, _, hshape, hh, hm, hz⟩

/-! ### Texts with one sign -/

theorem ne_sign_of_mem_name {cs : List Char}
    (hname : sameName cs "utc".toList = true ∨ cs = ['Z']) {c : Char} (hc : c ∈ cs) :
    c ≠ '+' ∧ c ≠ '-' := by
  rcases hname with hname | rfl
  · have hmem : c.toLower ∈ "utc".toList.map Char.toLower := by
      rw [← beq_iff_eq.mp hname]
      exact List.mem_map_of_mem hc
    constructor
    · rintro rfl
      exact absurd hmem (by decide)
    · rintro rfl
      exact absurd hmem (by decide)
  · rw [List.mem_singleton.mp hc]
    decide

theorem Shape.ne_sign {h m : Nat} {cs : List Char} (hshape : Shape IsNumeral h m cs) {c : Char}
    (hc : c ∈ cs) : c ≠ '+' ∧ c ≠ '-' := by
  have hallowed : isDigit c = true ∨ c = ':' := hshape.mem (fun _ _ hds => hds.digits) hc
  constructor
  · rintro rfl
    exact absurd hallowed (by decide)
  · rintro rfl
    exact absurd hallowed (by decide)

/-- Digits alone leave no place for a second sign. -/
theorem Spelling.ne_sign {z : Offset} {cs : List Char} (h : Spelling IsNumeral z cs) :
    ∀ c ∈ cs.tail, c ≠ '+' ∧ c ≠ '-' := by
  intro c hc
  cases h with
  | name hname _ => exact ne_sign_of_mem_name hname (List.mem_of_mem_tail hc)
  | east hshape _ _ _ => exact hshape.ne_sign hc
  | west hshape _ _ _ => exact hshape.ne_sign hc

/-- **Offsets are read from the texts that they are meant to be written in, and from those texts
    with a second sign.**  A text of a name, or of one sign and digits in one of the shapes, is
    read as what it writes, white space around it aside.  A text is read as it is meant to be
    exactly if it is refused or has no second sign.  Altogether those are read in which hours and
    minutes may have a sign of their own, a minus if they are zero. -/
theorem read?_by_spelling (s : List Char) :
    (∀ z, Spelling IsNumeral z (trim s) → read? s = some z) ∧
    ((∀ z, read? s = some z ↔ Spelling IsNumeral z (trim s)) ↔
      read? s = none ∨ ∀ c ∈ (trim s).tail, c ≠ '+' ∧ c ≠ '-') ∧
    ∀ z, read? s = some z ↔ Spelling IsSigned z (trim s) := by
  have hbare : ∀ z, Spelling IsNumeral z (trim s) → read? s = some z := by
    intro z h
    apply read?_eq_some_iff.mpr
    apply h.imp
    intro n ds _ hds
    exact IsSignedNumeral.bare hds
  refine ⟨hbare, ?_, fun z => read?_eq_some_iff⟩
  constructor
  · intro hmeant
    cases hread : read? s with
    | none => exact .inl rfl
    | some z => exact .inr ((hmeant z).mp hread).ne_sign
  · intro h z
    refine ⟨?_, hbare z⟩
    intro hread
    rcases h with hnone | hsigns
    · rw [hnone] at hread
      exact nomatch hread
    · apply (read?_eq_some_iff.mp hread).imp
      intro n ds hmem hds
      exact hds.isNumeral fun c hc => hsigns c (hmem c hc)

/-- Four digits are hours and minutes, with one digit more they are hours again, and digits of
    another script are none. -/
theorem read?_by_spelling_digits :
    read? " -0023\u3000".toList = some ⟨-1380, by decide⟩ ∧
      read? "+00023".toList = some ⟨82800, by decide⟩ ∧
      ¬ ∃ z, Spelling IsNumeral z (trim "+\uFF108:00".toList) := by
  refine ⟨(read?_by_spelling _).1 _ ?_, (read?_by_spelling _).1 _ ?_, ?_⟩
  · have htrim : trim " -0023\u3000".toList = '-' :: (['0', '0'] ++ ['2', '3']) := by
      decide +kernel
    rw [htrim]
    exact .west (.joined (readNat_eq_some_iff.mp rfl) (readNat_eq_some_iff.mp rfl) rfl rfl)
      (by decide) (by decide) rfl
  · have htrim : trim "+00023".toList = '+' :: ['0', '0', '0', '2', '3'] := by decide +kernel
    rw [htrim]
    exact .east (.hours (readNat_eq_some_iff.mp rfl) (by decide)) (by decide) (by decide) rfl
  · have hrefused : read? "+\uFF108:00".toList = none := by decide +kernel
    rintro ⟨z, hspelling⟩
    have hread := (read?_by_spelling _).1 z hspelling
    rw [hrefused] at hread
    exact nomatch hread

/-- **Not every text that is read has one sign.** -/
theorem read?_of_second_sign :
    read? "++5".toList = some ⟨18000, by decide⟩ ∧
      ¬ ∃ z, Spelling IsNumeral z (trim "++5".toList) := by
  refine ⟨by decide +kernel, ?_⟩
  have htrim : trim "++5".toList = ['+', '+', '5'] := by decide +kernel
  rw [htrim]
  rintro ⟨z, hspelling⟩
  exact (hspelling.ne_sign '+' List.mem_cons_self).1 rfl

end Offset

end Criteria
