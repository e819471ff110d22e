/-
  Criteria/Proofs/Value/Tokens.lean
  =================================
  **Pieces between commas, and tokens.**  A piece of a text is what stands
  between two of its commas, the ends of the text counted as commas: so a text
  without the separator is a piece exactly if it occurs between separators in the
  text with a separator put at each end (`mem_splitOn_iff_padded`).  A token is a
  piece without the blanks around it and is not empty.
-/
import Criteria.Value.Tokens
import Mathlib.Data.List.DropRight
import Mathlib.Data.List.Infix

namespace Criteria

namespace Text

/-! ### Pieces -/

section

variable {sep : Char}

/-- The pieces with the separator in front of each are the text with it in front. -/
theorem cons_intercalate (sep : Char) {ls : List (List Char)} (hls : ls ≠ []) :
    sep :: [sep].intercalate ls = ls.flatMap (sep :: ·) := by
  induction ls with
  | nil => exact absurd rfl hls
  | cons l ls ih =>
    cases ls with
    | nil => simp
    | cons k ks =>
      have htail := ih (by simp)
      rw [List.intercalate_cons_cons, List.flatMap_cons, ← htail]
      simp

theorem infix_of_mem_splitOn {t x : List Char} (h : t ∈ x.splitOn sep) :
    (sep :: (t ++ [sep])) <:+: (sep :: (x ++ [sep])) := by
  obtain ⟨before, after, hsplit⟩ := List.append_of_mem h
  have hx : sep :: x = (x.splitOn sep).flatMap (sep :: ·) := by
    rw [← cons_intercalate sep (List.splitOn_ne_nil sep x), List.intercalate_splitOn]
  obtain ⟨rest, hrest⟩ : ∃ rest, after.flatMap (sep :: ·) ++ [sep] = sep :: rest := by
    cases after with
    | nil => exact ⟨[], rfl⟩
    | cons k ks => exact ⟨_, rfl⟩
  refine ⟨before.flatMap (sep :: ·), rest, ?_⟩
  calc before.flatMap (sep :: ·) ++ sep :: (t ++ [sep]) ++ rest
      = before.flatMap (sep :: ·) ++ sep :: (t ++ (sep :: rest)) := by simp
    _ = before.flatMap (sep :: ·) ++ sep :: (t ++ (after.flatMap (sep :: ·) ++ [sep])) := by
        rw [hrest]
    _ = (x.splitOn sep).flatMap (sep :: ·) ++ [sep] := by
        rw [hsplit]
        simp
    _ = sep :: (x ++ [sep]) := by rw [← hx, List.cons_append]

theorem mem_splitOn_of_infix {t x : List Char} (ht : sep ∉ t) (hne : t ≠ [])
    (h : (sep :: (t ++ [sep])) <:+: (sep :: (x ++ [sep]))) : t ∈ x.splitOn sep := by
  obtain ⟨a, b, hab⟩ := h
  have hcut : (a ++ sep :: (t ++ sep :: b)).splitOn sep =
      ([] ++ sep :: (x ++ sep :: [])).splitOn sep := by
    rw [List.nil_append, ← hab]
    simp
  simp only [List.splitOn_append_cons_self, List.splitOn_eq_singleton ht, List.splitOn_nil] at hcut
  have hmem : t ∈ [[]] ++ (x.splitOn sep ++ [[]]) := by
    rw [← hcut]
    simp
  simpa [hne] using hmem

/-- **A text is a piece of another exactly if it occurs in it between separators.** -/
theorem mem_splitOn_iff_padded {t : List Char} (ht : sep ∉ t) (hne : t ≠ []) (x : List Char) :
    t ∈ x.splitOn sep ↔ (sep :: (t ++ [sep])) <:+: (sep :: (x ++ [sep])) :=
  ⟨infix_of_mem_splitOn, mem_splitOn_of_infix ht hne⟩

/-- No piece holds the separator. -/
theorem not_mem_of_mem_splitOn {t x : List Char} (h : t ∈ x.splitOn sep) : sep ∉ t := by
  induction x generalizing t with
  | nil =>
    rw [List.splitOn_nil, List.mem_singleton] at h
    rw [h]
    exact List.not_mem_nil
  | cons c x ih =>
    rw [List.splitOn_cons_eq_if_modifyHead] at h
    by_cases hc : (c == sep) = true
    · rw [if_pos hc, List.mem_cons] at h
      rcases h with rfl | h
      · exact List.not_mem_nil
      · exact ih h
    · rw [if_neg hc] at h
      cases hsplit : x.splitOn sep with
      | nil => exact absurd hsplit (List.splitOn_ne_nil sep x)
      | cons l ls =>
        rw [hsplit, List.modifyHead_cons, List.mem_cons] at h
        rw [hsplit] at ih
        rcases h with rfl | h
        · intro hmem
          rcases List.mem_cons.mp hmem with rfl | hmem
          · exact hc (beq_self_eq_true _)
          · exact ih List.mem_cons_self hmem
        · exact ih (List.mem_cons_of_mem l h)

end

/-! ### Tokens -/

theorem trim_sublist (cs : List Char) : (trim cs).Sublist cs := by
  have hback : (trim cs).Sublist (dropBlanks cs) := by
    have h := (List.dropWhile_sublist isBlank (l := (dropBlanks cs).reverse)).reverse
    rwa [List.reverse_reverse] at h
  exact hback.trans (List.dropWhile_sublist isBlank)

/-- A trimmed text has no blanks left at either end. -/
theorem trim_trim (cs : List Char) : trim (trim cs) = trim cs := by
  have hfront : dropBlanks (trim cs) = trim cs := by
    rw [dropBlanks, List.dropWhile_eq_self_iff]
    intro hl
    have hshorter : trim cs <+: dropBlanks cs := List.rdropWhile_prefix isBlank (dropBlanks cs)
    rw [hshorter.getElem hl]
    exact List.dropWhile_get_zero_not isBlank cs (hl.trans_le hshorter.length_le)
  calc trim (trim cs) = dropBlanksEnd (trim cs) := by rw [trim, hfront]
    _ = trim cs := List.rdropWhile_idempotent isBlank (dropBlanks cs)

/-- What a token is. -/
theorem mem_tokens {t cs : List Char} :
    t ∈ tokens cs ↔ t ≠ [] ∧ ∃ piece ∈ cs.splitOn ',', trim piece = t := by
  simp [tokens, and_comm]

theorem ne_nil_of_mem_tokens {t cs : List Char} (h : t ∈ tokens cs) : t ≠ [] :=
  (mem_tokens.mp h).1

theorem comma_not_mem_of_mem_tokens {t cs : List Char} (h : t ∈ tokens cs) : ',' ∉ t := by
  obtain ⟨_, piece, hpiece, rfl⟩ := mem_tokens.mp h
  intro hcomma
  exact not_mem_of_mem_splitOn hpiece ((trim_sublist piece).subset hcomma)

theorem trim_of_mem_tokens {t cs : List Char} (h : t ∈ tokens cs) : trim t = t := by
  obtain ⟨_, piece, _, rfl⟩ := mem_tokens.mp h
  exact trim_trim piece

/-- **A comma between two texts parts their tokens**, whatever stands beside it. -/
theorem tokens_append_comma (cs ds : List Char) :
    tokens (cs ++ ',' :: ds) = tokens cs ++ tokens ds := by
  simp only [tokens, List.splitOn_append_cons_self, List.map_append, List.filter_append]

end Text

/-- The characters of a token of a text. -/
theorem toList_mem_of_mem_tokens {t s : String} (h : t ∈ tokens s) :
    t.toList ∈ Text.tokens s.toList := by
  obtain ⟨cs, hcs, rfl⟩ := List.mem_map.mp h
  rwa [String.toList_ofList]

theorem mem_tokens_of_toList_mem {t s : String} (h : t.toList ∈ Text.tokens s.toList) :
    t ∈ tokens s :=
  List.mem_map.mpr ⟨t.toList, h, String.ofList_toList⟩

theorem tokens_append_comma (a b : String) : tokens (a ++ "," ++ b) = tokens a ++ tokens b := by
  have hchars : (a ++ "," ++ b).toList = a.toList ++ ',' :: b.toList := by
    simp [String.toList_append]
  simp only [tokens, hchars, Text.tokens_append_comma, List.map_append]

end Criteria
