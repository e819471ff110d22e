/-
  Criteria/Proofs/Offset/Canonical.lean
  =====================================
  **An offset that is read has one text.**  Many texts write an offset, with blanks
  around them, zeros in front and shapes to choose from; the offset itself is written
  in one way.  What is read is a number of whole minutes less than a day either way,
  so nothing of it is lost in that text, and two offsets that were read have the same
  text only if they are the same.  Search documents print the zone in it.
-/
import Criteria.Proofs.Offset.Octets
import Criteria.Proofs.Search.RelativeDays

namespace Criteria

namespace Offset

open Text

/-! ### The text of an offset -/

/-- Six characters: a sign, two digits, a colon, two digits. -/
inductive IsCanonical : List Char → Prop where
  | mk {sign h h' m m' : Char} (hsign : sign = '+' ∨ sign = '-')
      (hdigits : ∀ c ∈ [h, h', m, m'], isDigit c = true) : IsCanonical [sign, h, h', ':', m, m']

theorem isCanonical_text (z : Offset) : IsCanonical z.text := by
  have htext : ∀ (sign : Char) (hours minutes : Nat), sign = '+' ∨ sign = '-' →
      IsCanonical (sign :: (fixedDigits 2 hours ++ ':' :: fixedDigits 2 minutes)) := by
    intro sign hours minutes hsign
    refine .mk hsign ?_
    intro c hc
    have hmem : c ∈ fixedDigits 2 hours ++ fixedDigits 2 minutes := by
      simpa [fixedDigits] using hc
    rcases List.mem_append.mp hmem with hmem | hmem
    · exact isDigit_of_mem_fixedDigits hmem
    · exact isDigit_of_mem_fixedDigits hmem
  apply htext
  split
  · exact .inr rfl
  · exact .inl rfl

section

variable {z z' : Offset}

/-- Of whole minutes less than a day the most are 59 past 23. -/
theorem natAbs_le_of_mod (h : z.seconds % 60 = 0) : z.seconds.natAbs ≤ 23 * 3600 + 59 * 60 := by
  obtain ⟨hlow, hhigh⟩ := z.bounded
  omega

theorem read?_text_of_mod (h : z.seconds % 60 = 0) : read? z.text = some z := by
  rw [read?_text, wholeMinutes_of_mod h]

/-- **Whole minutes are told apart by their texts.** -/
theorem text_eq_iff (h : z.seconds % 60 = 0) (h' : z'.seconds % 60 = 0) :
    z.text = z'.text ↔ z = z' := by
  constructor
  · intro htext
    have hread := read?_text_of_mod h
    rw [htext, read?_text_of_mod h'] at hread
    exact (Option.some.inj hread).symm
  · rintro rfl
    rfl

end

/-! ### The zone of search documents -/

theorem zoneText?_of_build {b : Blueprint} {e : Engine} (hbuild : b.build = .ok e) {c : Condition}
    (htype : c.valueType = .time) (hop : c.operator.isRelativeDate = true) :
    ∃ doc, (e.renderFor .search [c]).get? 1 = some (.search doc) ∧
      Search.zoneText? doc = some (String.ofList e.zone.text) := by
  obtain ⟨z, -, rfl⟩ := Blueprint.build_eq_ok_iff.mp hbuild
  obtain ⟨days, hf⟩ := Operator.isRelativeDate_iff.mp hop
  have hdoc := Condition.toSearch_relativeDay htype hf z
  exact ⟨_, congrArg some hdoc, Search.zoneText?_onDay c.identifier days.toInt z⟩

/-- **Offsets read from text keep all of themselves in their text.**  Every text is read or refused
    without a fault.  What is read is a number of whole minutes, up to 23 hours and 59 of them; its
    text has six characters and is read as the same offset.  Whole minutes are told apart by their
    texts, so the documents of two engines print one zone exactly if the texts of their settings
    write one offset. -/
theorem read?_canonical :
    (∀ s, checkedRead s = .ok (read? s)) ∧
    (∀ s z, read? s = some z → z.seconds % 60 = 0 ∧ z.seconds.natAbs ≤ 23 * 3600 + 59 * 60 ∧
      IsCanonical z.text ∧ read? z.text = some z) ∧
    (∀ z z' : Offset, z.seconds % 60 = 0 → z'.seconds % 60 = 0 → (z.text = z'.text ↔ z = z')) ∧
    ∀ (b b' : Blueprint) (e e' : Engine), b.build = .ok e → b'.build = .ok e' →
      ∀ c : Condition, c.valueType = .time → c.operator.isRelativeDate = true →
        ∃ doc doc' text text', (e.renderFor .search [c]).get? 1 = some (.search doc) ∧
          (e'.renderFor .search [c]).get? 1 = some (.search doc') ∧
          Search.zoneText? doc = some text ∧ Search.zoneText? doc' = some text' ∧
          (text = text' ↔
            read? b.settings.timeZone.toList = read? b'.settings.timeZone.toList) := by
  refine ⟨checkedRead_eq, ?_, fun z z' => text_eq_iff, ?_⟩
  · intro s z hread
    have hminutes := read?_mod hread
    exact ⟨hminutes, natAbs_le_of_mod hminutes, isCanonical_text z, read?_text_of_mod hminutes⟩
  · intro b b' e e' hbuild hbuild' c htype hop
    obtain ⟨doc, hdoc, htext⟩ := zoneText?_of_build hbuild htype hop
    obtain ⟨doc', hdoc', htext'⟩ := zoneText?_of_build hbuild' htype hop
    refine ⟨doc, doc', _, _, hdoc, hdoc', htext, htext', ?_⟩
    obtain ⟨z, hread, rfl⟩ := Blueprint.build_eq_ok_iff.mp hbuild
    obtain ⟨z', hread', rfl⟩ := Blueprint.build_eq_ok_iff.mp hbuild'
    rw [hread, hread', Option.some_inj, String.ofList_inj,
      text_eq_iff (read?_mod hread) (read?_mod hread')]

/-- Half an hour west with zeros in front and blanks around it, and a character of three octets
    that a cut after two octets would go through. -/
theorem read?_canonical_west :
    (∃ z, read? " -000:030\u2003".toList = some z ∧ z.seconds % 60 = 0 ∧
      IsCanonical z.text ∧ read? z.text = some z) ∧
    checkedRead "+1€".toList = .ok none ∧
    ∃ e e' doc doc' text text', Blueprint.build { settings := { timeZone := "-00:30" } } = .ok e ∧
      Blueprint.build { settings := { timeZone := " -0030" } } = .ok e' ∧
      (e.renderFor .search [.nullary "at" .time .today]).get? 1 = some (.search doc) ∧
      (e'.renderFor .search [.nullary "at" .time .today]).get? 1 = some (.search doc') ∧
      Search.zoneText? doc = some text ∧ Search.zoneText? doc' = some text' ∧ text = text' := by
  obtain ⟨hfaultless, hread, -, hprinted⟩ := read?_canonical
  refine ⟨?_, ?_, ?_⟩
  · have htext : read? " -000:030\u2003".toList = some ⟨-1800, by decide⟩ := by decide +kernel
    obtain ⟨hminutes, -, hcanonical, hback⟩ := hread _ _ htext
    exact ⟨_, htext, hminutes, hcanonical, hback⟩
  · rw [hfaultless]
    exact congrArg _ (by decide +kernel)
  · have hbuild : Blueprint.build { settings := { timeZone := "-00:30" } } =
        .ok { settings := { timeZone := "-00:30" }, zone := ⟨-1800, by decide⟩, clock := .running,
              renderer := { zone := ⟨-1800, by decide⟩ } } := rfl
    have hbuild' : Blueprint.build { settings := { timeZone := " -0030" } } =
        .ok { settings := { timeZone := " -0030" }, zone := ⟨-1800, by decide⟩, clock := .running,
              renderer := { zone := ⟨-1800, by decide⟩ } } := rfl
    obtain ⟨doc, doc', text, text', hdoc, hdoc', htext, htext', hsame⟩ :=
      hprinted _ _ _ _ hbuild hbuild' (.nullary "at" .time .today) rfl rfl
    have hoffset : read? "-00:30".toList = read? " -0030".toList := by decide +kernel
    exact ⟨_, _, doc, doc', text, text', hbuild, hbuild', hdoc, hdoc', htext, htext',
      hsame.mpr hoffset⟩

end Offset

end Criteria
