/-
  Criteria/Proofs/Value/Joined.lean
  =================================
  **Tokens joined by commas.**  A token is what can stand between two commas and be
  found there as it is: not empty, without a comma, and without a blank at either
  end (`IsToken`).  Cutting a text gives such tokens and nothing else
  (`isToken_of_mem_tokens`), and a list of them that is joined by commas is cut into
  the same list (`tokens_intercalate`).  So cutting undoes joining, and on the texts
  that are joined tokens joining undoes cutting.
-/
import Criteria.Proofs.Text.Blank
import Criteria.Proofs.Value.Tokens

namespace Criteria

namespace Text

/-! ### Tokens -/

/-- What can stand between two commas and be found there as it is. -/
structure IsToken (t : List Char) : Prop where
  nonempty : t ≠ []
  comma : ',' ∉ t
  front : ∀ c ∈ t.head?, isBlank c = false
  back : ∀ c ∈ t.getLast?, isBlank c = false

theorem isToken_iff {t : List Char} : IsToken t ↔ t ≠ [] ∧ ',' ∉ t ∧ trim t = t := by
  rw [trim_eq_self_iff]
  constructor
  · rintro ⟨hne, hcomma, hfront, hback⟩
    exact ⟨hne, hcomma, hfront, hback⟩
  · rintro ⟨hne, hcomma, hfront, hback⟩
    exact ⟨hne, hcomma, hfront, hback⟩

instance (t : List Char) : Decidable (IsToken t) := decidable_of_iff _ isToken_iff.symm

/-- **Cutting a text gives tokens and nothing else.** -/
theorem isToken_of_mem_tokens {t cs : List Char} (h : t ∈ tokens cs) : IsToken t :=
  isToken_iff.mpr ⟨ne_nil_of_mem_tokens h, comma_not_mem_of_mem_tokens h, trim_of_mem_tokens h⟩

theorem tokens_of_isToken {t : List Char} (h : IsToken t) : tokens t = [t] := by
  obtain ⟨hne, hcomma, htrim⟩ := isToken_iff.mp h
  simp [tokens, List.splitOn_eq_singleton hcomma, htrim, hne]

/-- **Cutting undoes joining.** -/
theorem tokens_intercalate {ts : List (List Char)} (h : ∀ t ∈ ts, IsToken t) :
    tokens ([','].intercalate ts) = ts := by
  induction ts with
  | nil => rfl
  | cons t ts ih =>
    rw [List.forall_mem_cons] at h
    have hfirst := tokens_of_isToken h.1
    cases ts with
    | nil => simpa using hfirst
    | cons u us =>
      rw [List.intercalate_cons_cons, List.append_assoc, List.singleton_append,
        tokens_append_comma, hfirst, ih h.2, List.singleton_append]

end Text

/-! ### Texts -/

/-- A text that can stand between two commas and be found there as it is. -/
def IsToken (t : String) : Prop := Text.IsToken t.toList

instance (t : String) : Decidable (IsToken t) := inferInstanceAs (Decidable (Text.IsToken t.toList))

theorem isToken_of_mem_tokens {t s : String} (h : t ∈ tokens s) : IsToken t :=
  Text.isToken_of_mem_tokens (toList_mem_of_mem_tokens h)

theorem tokens_intercalate {ts : List String} (h : ∀ t ∈ ts, IsToken t) :
    tokens (",".intercalate ts) = ts := by
  have hcomma : ",".toList = [','] := rfl
  have hcut : Text.tokens ([','].intercalate (ts.map String.toList)) = ts.map String.toList := by
    apply Text.tokens_intercalate
    intro cs hcs
    obtain ⟨t, ht, rfl⟩ := List.mem_map.mp hcs
    exact h t ht
  rw [tokens, String.toList_intercalate, hcomma, hcut, List.map_map]
  simp [Function.comp_def]

/-- **Cutting a text into tokens decodes tokens that are joined by commas.**  All that it gives are
    tokens; a list of tokens that is joined comes back in its order, with what occurs in it twice;
    a comma between two texts parts their tokens; and of any text the tokens, joined and cut again,
    stay as they are. -/
theorem tokens_decode_joined :
    (∀ s : String, ∀ t ∈ tokens s, IsToken t) ∧
    (∀ ts : List String, (∀ t ∈ ts, IsToken t) → tokens (",".intercalate ts) = ts) ∧
    (∀ a b, tokens (a ++ "," ++ b) = tokens a ++ tokens b) ∧
    ∀ s, tokens (",".intercalate (tokens s)) = tokens s := by
  refine ⟨?_, ?_, ?_, ?_⟩
  · intro s t ht
    exact isToken_of_mem_tokens ht
  · intro ts hts
    exact tokens_intercalate hts
  · intro a b
    exact tokens_append_comma a b
  · intro s
    exact tokens_intercalate fun t ht => isToken_of_mem_tokens ht

/-- A token twice, one with a blank inside it, and one that ends with a space of no width, which is
    no blank. -/
theorem tokens_decode_joined_twice :
    tokens (",".intercalate ["a b", "c\u200b", "a b", "'"]) = ["a b", "c\u200b", "a b", "'"] := by
  have hts : ∀ t ∈ ["a b", "c\u200b", "a b", "'"], IsToken t := by decide +kernel
  obtain ⟨-, hjoined, -, -⟩ := tokens_decode_joined
  exact hjoined _ hts

end Criteria
