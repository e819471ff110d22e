/-
  Criteria/Proofs/Text/Blank.lean
  ===============================
  **Texts without blanks at their ends, and texts cut at a mark.**  Trimming leaves
  a text alone if it neither starts nor ends with a blank, and does not see blanks
  that are put around a text.  A text is cut at the first place where the mark
  stands, so in front of it the mark may not occur.
-/
import Criteria.Proofs.Text.Digits
import Criteria.Text.Blank
import Mathlib.Data.List.DropRight

namespace Criteria.Text

theorem isBlank_of_isDigit {c : Char} (h : isDigit c = true) : isBlank c = false := by
  have hrange := toNat_of_isDigit h
  simp only [isBlank, blankRanges, List.any_cons, List.any_nil]
  simp
  omega

theorem dropBlanks_cons {c : Char} (h : isBlank c = false) (cs : List Char) :
    dropBlanks (c :: cs) = c :: cs := by
  rw [dropBlanks, List.dropWhile_cons_of_neg (by simp [h])]

theorem trim_eq_self {cs : List Char} (hfirst : ∀ c ∈ cs.head?, isBlank c = false)
    (hlast : ∀ c ∈ cs.getLast?, isBlank c = false) : trim cs = cs := by
  have hfront : dropBlanks cs = cs := by
    cases cs with
    | nil => rfl
    | cons c cs => exact dropBlanks_cons (hfirst c rfl) cs
  have hback : dropBlanksEnd cs = cs := by
    apply List.rdropWhile_eq_self_iff.mpr
    intro hne hblank
    rw [hlast _ (List.getLast?_eq_some_getLast hne)] at hblank
    exact absurd hblank (by decide)
  rw [trim, hfront, hback]

/-- A text is its own trimmed form exactly if it neither starts nor ends with a blank. -/
theorem trim_eq_self_iff {cs : List Char} :
    trim cs = cs ↔
      (∀ c ∈ cs.head?, isBlank c = false) ∧ ∀ c ∈ cs.getLast?, isBlank c = false := by
  constructor
  · intro h
    -- what is lost at one end is not made up for at the other
    have hfront : dropBlanks cs = cs := by
      apply (List.dropWhile_sublist isBlank).eq_of_length_le
      have hshorter : trim cs <+: dropBlanks cs := List.rdropWhile_prefix isBlank (dropBlanks cs)
      rw [h] at hshorter
      exact hshorter.length_le
    have hback : dropBlanksEnd cs = cs := by
      rw [trim, hfront] at h
      exact h
    constructor
    · intro c hc
      cases cs with
      | nil => exact nomatch hc
      | cons d cs =>
        obtain rfl : d = c := Option.some.inj hc
        have hd := List.dropWhile_eq_self_iff.mp hfront (by simp)
        simpa using hd
    · intro c hc
      have hne : cs ≠ [] := by
        rintro rfl
        exact nomatch hc
      have hlast := List.rdropWhile_eq_self_iff.mp hback hne
      rw [List.getLast?_eq_some_getLast hne] at hc
      rw [← Option.some.inj hc]
      simpa using hlast
  · rintro ⟨hfirst, hlast⟩
    exact trim_eq_self hfirst hlast

/-- Blanks around a text are trimmed with its own. -/
theorem trim_surrounded {before after : List Char} (hbefore : ∀ c ∈ before, isBlank c = true)
    (hafter : ∀ c ∈ after, isBlank c = true) (cs : List Char) :
    trim (before ++ (cs ++ after)) = trim cs := by
  have hfront : dropBlanks (before ++ (cs ++ after)) = dropBlanks (cs ++ after) :=
    List.dropWhile_append_of_pos hbefore
  have hback : ∀ xs, dropBlanksEnd (xs ++ after) = dropBlanksEnd xs := by
    intro xs
    rw [dropBlanksEnd, List.reverse_append,
      List.dropWhile_append_of_pos fun c hc => hafter c (List.mem_reverse.mp hc), dropBlanksEnd]
  rw [trim, trim, hfront, dropBlanks, List.dropWhile_append]
  cases hcs : cs.dropWhile isBlank with
  | nil => rw [List.isEmpty_nil, if_pos rfl, List.dropWhile_eq_nil_iff.mpr hafter, dropBlanks, hcs]
  | cons c rest => rw [List.isEmpty_cons, if_neg Bool.false_ne_true, hback, dropBlanks, hcs]

theorem cutAt_append {sep : Char} {front : List Char} (h : sep ∉ front) (rest : List Char) :
    cutAt sep (front ++ sep :: rest) = some (front, rest) := by
  induction front with
  | nil => simp [cutAt]
  | cons c cs ih =>
    have hc : c ≠ sep := fun heq => h (by simp [heq])
    have hcs : sep ∉ cs := fun hmem => h (List.mem_cons_of_mem c hmem)
    simp [cutAt, hc, ih hcs]

/-- **What a cut gives back**: the text in front of the first mark, and the text behind it. -/
theorem cutAt_eq_some_iff {sep : Char} {cs front rest : List Char} :
    cutAt sep cs = some (front, rest) ↔ cs = front ++ sep :: rest ∧ sep ∉ front := by
  constructor
  · intro h
    induction cs generalizing front with
    | nil => exact nomatch h
    | cons c cs ih =>
      unfold cutAt at h
      split at h
      · next hc =>
        rw [Option.some.injEq, Prod.mk.injEq] at h
        rw [← h.1, ← h.2, hc]
        exact ⟨rfl, List.not_mem_nil⟩
      · next hc =>
        obtain ⟨⟨front', rest'⟩, hcut, hparts⟩ := Option.map_eq_some_iff.mp h
        rw [Prod.mk.injEq] at hparts
        obtain ⟨rfl, rfl⟩ := hparts
        obtain ⟨rfl, hfront⟩ := ih hcut
        refine ⟨rfl, ?_⟩
        intro hmem
        rcases List.mem_cons.mp hmem with heq | hmem
        · exact hc heq.symm
        · exact hfront hmem
  · rintro ⟨rfl, hfront⟩
    exact cutAt_append hfront rest

theorem cutAt_eq_none_iff {sep : Char} {cs : List Char} : cutAt sep cs = none ↔ sep ∉ cs := by
  constructor
  · intro h hmem
    obtain ⟨front, rest, rfl, hfront⟩ := List.eq_append_cons_of_mem hmem
    rw [cutAt_append hfront] at h
    exact nomatch h
  · intro h
    rw [Option.eq_none_iff_forall_ne_some]
    rintro ⟨front, rest⟩ hcut
    apply h
    rw [(cutAt_eq_some_iff.mp hcut).1]
    simp

end Criteria.Text
