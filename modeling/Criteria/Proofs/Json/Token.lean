/-
  Criteria/Proofs/Json/Token.lean
  ===============================
  **The tokens of a written value.**  The compact text of a value is read as the
  tokens that the value was written from (`tokens_chars`).  A string comes back
  with every character it has: an escape is undone by the escape that is read, and
  no character is half of a pair.  A number or a name is a run of characters none
  of which ends a word, so it is read up to whatever follows it.
-/
import Criteria.Json
import Criteria.Json.Token
import Criteria.Proofs.Text.Digits

namespace Criteria

namespace Json

open Text

/-! ### One character after the other -/

theorem tokensFrom_cons (p : Place) (c : Char) (cs : List Char) :
    tokensFrom p (c :: cs) = (p.step c).bind fun r => (tokensFrom r.2 cs).map (r.1 ++ ·) := by
  cases p <;> rfl

/-- A character inside a token completes none. -/
theorem tokensFrom_of_step {p q : Place} {c : Char} (h : p.step c = some ([], q))
    (cs : List Char) : tokensFrom p (c :: cs) = tokensFrom q cs := by
  rw [tokensFrom_cons, h, Option.bind_some]
  cases tokensFrom q cs <;> rfl

theorem tokensFrom_of_token {p : Place} {c : Char} {t : Token}
    (h : p.step c = some ([t], .between)) (cs : List Char) :
    tokensFrom p (c :: cs) = (tokensFrom .between cs).map (t :: ·) := by
  rw [tokensFrom_cons, h, Option.bind_some]
  rfl

/-! ### Strings -/

theorem hexValue?_digitChar {n : Nat} (h : n < 16) : hexValue? (Nat.digitChar n) = some n := by
  revert n
  decide

theorem tokensFrom_short {e c : Char} (he : e ≠ 'u') (hc : escaped? e = some c) (us : List Nat)
    (rest : List Char) :
    tokensFrom (.string us) ('\\' :: e :: rest) = tokensFrom (.string (c.toNat :: us)) rest := by
  have hopen : Place.step '\\' (.string us) = some ([], .escape us) := rfl
  have hletter : Place.step e (.escape us) = some ([], .string (c.toNat :: us)) := by
    simp only [Place.step, if_neg he, hc, Option.map_some]
  rw [tokensFrom_of_step hopen, tokensFrom_of_step hletter]

theorem tokensFrom_numbered {n : Nat} (hn : n < 256) (us : List Nat) (rest : List Char) :
    tokensFrom (.string us)
        (['\\', 'u', '0', '0', Nat.digitChar (n / 16), Nat.digitChar (n % 16)] ++ rest) =
      tokensFrom (.string (n :: us)) rest := by
  have hhigh : hexValue? (Nat.digitChar (n / 16)) = some (n / 16) :=
    hexValue?_digitChar (by omega)
  have hlow : hexValue? (Nat.digitChar (n % 16)) = some (n % 16) :=
    hexValue?_digitChar (by omega)
  have hopen : Place.step '\\' (.string us) = some ([], .escape us) := rfl
  have hnumber : Place.step 'u' (.escape us) = some ([], .hex us 4 0) := rfl
  have hzero : Place.step '0' (.hex us 4 0) = some ([], .hex us 3 0) := rfl
  have hzero' : Place.step '0' (.hex us 3 0) = some ([], .hex us 2 0) := rfl
  have hsixteens : Place.step (Nat.digitChar (n / 16)) (.hex us 2 0) =
      some ([], .hex us 1 (n / 16)) := by
    simp [Place.step, hhigh]
  have hones : Place.step (Nat.digitChar (n % 16)) (.hex us 1 (n / 16)) =
      some ([], .string (n :: us)) := by
    simp [Place.step, hlow, Nat.div_add_mod]
  simp only [List.cons_append, List.nil_append]
  rw [tokensFrom_of_step hopen, tokensFrom_of_step hnumber, tokensFrom_of_step hzero,
    tokensFrom_of_step hzero', tokensFrom_of_step hsixteens, tokensFrom_of_step hones]

/-- **All that a character inside a string can be written as**: an escape of one letter, a numbered
    escape, or itself. -/
theorem escape_cases (c : Char) :
    (∃ e, e ≠ 'u' ∧ escaped? e = some c ∧ escape c = ['\\', e]) ∨
    (c.toNat < 0x20 ∧ escape c =
      ['\\', 'u', '0', '0', Nat.digitChar (c.toNat / 16), Nat.digitChar (c.toNat % 16)]) ∨
    (c ≠ '"' ∧ c ≠ '\\' ∧ ¬ c.toNat < 0x20 ∧ escape c = [c]) := by
  unfold escape
  split
  · next h =>
    subst h
    exact .inl ⟨'"', by decide, rfl, rfl⟩
  split
  · next h =>
    subst h
    exact .inl ⟨'\\', by decide, rfl, rfl⟩
  split
  · next h => exact .inl ⟨'n', by decide, h ▸ rfl, rfl⟩
  split
  · next h => exact .inl ⟨'r', by decide, h ▸ rfl, rfl⟩
  split
  · next h => exact .inl ⟨'t', by decide, h ▸ rfl, rfl⟩
  split
  · next h => exact .inl ⟨'b', by decide, h ▸ rfl, rfl⟩
  split
  · next h => exact .inl ⟨'f', by decide, h ▸ rfl, rfl⟩
  split
  · next h => exact .inr (.inl ⟨h, rfl⟩)
  · next hquote hslash _ _ _ _ _ hcontrol => exact .inr (.inr ⟨hquote, hslash, hcontrol, rfl⟩)

/-- **A character of a string is read as it was written.** -/
theorem tokensFrom_escape (c : Char) (us : List Nat) (rest : List Char) :
    tokensFrom (.string us) (escape c ++ rest) = tokensFrom (.string (c.toNat :: us)) rest := by
  rcases escape_cases c with ⟨e, he, hc, h⟩ | ⟨hcontrol, h⟩ | ⟨hquote, hslash, hcontrol, h⟩
  · rw [h]
    exact tokensFrom_short he hc us rest
  · rw [h]
    exact tokensFrom_numbered (by omega) us rest
  · have hstep : Place.step c (.string us) = some ([], .string (c.toNat :: us)) := by
      simp only [Place.step, if_neg hquote, if_neg hslash, if_neg hcontrol]
    rw [h]
    exact tokensFrom_of_step hstep rest

theorem tokensFrom_escapes (cs : List Char) (us : List Nat) (rest : List Char) :
    tokensFrom (.string us) (cs.flatMap escape ++ rest) =
      tokensFrom (.string ((cs.map Char.toNat).reverse ++ us)) rest := by
  induction cs generalizing us with
  | nil => rfl
  | cons c cs ih =>
    rw [List.flatMap_cons, List.append_assoc, tokensFrom_escape, ih, List.map_cons,
      List.reverse_cons, List.append_assoc]
    rfl

theorem not_half (c : Char) : isHighHalf c.toNat = false ∧ isLowHalf c.toNat = false := by
  have hvalid : c.toNat < 0xD800 ∨ (0xDFFF < c.toNat ∧ c.toNat < 0x110000) := c.valid
  unfold isHighHalf isLowHalf
  constructor
  · simp only [Bool.and_eq_false_iff, decide_eq_false_iff_not]
    omega
  · simp only [Bool.and_eq_false_iff, decide_eq_false_iff_not]
    omega

theorem characters?_map_toNat (cs : List Char) : characters? (cs.map Char.toNat) = some cs := by
  induction cs with
  | nil => rfl
  | cons c cs ih =>
    obtain ⟨hhigh, hlow⟩ := not_half c
    cases cs with
    | nil => simp [characters?, hhigh, hlow]
    | cons d ds =>
      simp only [List.map_cons] at ih ⊢
      simp [characters?, hhigh, hlow, ih]

/-- **A quoted string is one token**, which denotes the string. -/
theorem tokensFrom_quoted (s : String) (rest : List Char) :
    tokensFrom .between (quoted s ++ rest) =
      (tokensFrom .between rest).map (.string (some s) :: ·) := by
  have hopen : Place.step '"' .between = some ([], .string []) := rfl
  have hclose : Place.step '"' (.string (s.toList.map Char.toNat).reverse) =
      some ([.string (some s)], .between) := by
    simp only [Place.step, if_true, stringOf, List.reverse_reverse, characters?_map_toNat,
      Option.map_some, String.ofList_toList]
  rw [quoted, List.cons_append, List.append_assoc, tokensFrom_of_step hopen, tokensFrom_escapes,
    List.append_nil]
  exact tokensFrom_of_token hclose rest

/-! ### Words -/

/-- A run of characters that is one token. -/
structure IsWord (w : List Char) : Prop where
  ne_nil : w ≠ []
  inside : ∀ c ∈ w, endsWord c = false

/-- What may follow a word: nothing, or a character that ends it. -/
def EndsWord (rest : List Char) : Prop := ∀ c ∈ rest.head?, endsWord c = true

theorem enter_of_endsWord {c : Char} (h : endsWord c = false) : enter c = ([], .word [c]) := by
  unfold endsWord at h
  simp only [Bool.or_eq_false_iff, decide_eq_false_iff_not, Option.isSome_eq_false_iff,
    Option.isNone_iff_eq_none] at h
  obtain ⟨⟨hpunctuation, hspace⟩, hquote⟩ := h
  simp only [enter, hpunctuation, hspace, hquote, if_false, Bool.false_eq_true]

theorem tokensFrom_run {w : List Char} (hw : ∀ c ∈ w, endsWord c = false) (reversed : List Char)
    {rest : List Char} (hrest : EndsWord rest) :
    tokensFrom (.word reversed) (w ++ rest) =
      (tokensFrom .between rest).map (.word (reversed.reverse ++ w) :: ·) := by
  induction w generalizing reversed with
  | nil =>
    rw [List.nil_append, List.append_nil]
    cases rest with
    | nil => rfl
    | cons c cs =>
      have hc : endsWord c = true := hrest c rfl
      rw [tokensFrom_cons, tokensFrom_cons]
      simp only [Place.step, hc, if_true, Option.bind_some, Option.map_map]
      rfl
  | cons c cs ih =>
    have hc : endsWord c = false := hw c List.mem_cons_self
    have hstep : Place.step c (.word reversed) = some ([], .word (c :: reversed)) := by
      simp only [Place.step, hc, Bool.false_eq_true, if_false]
    rw [List.cons_append, tokensFrom_of_step hstep,
      ih (fun d hd => hw d (List.mem_cons_of_mem c hd)), List.reverse_cons, List.append_assoc]
    rfl

/-- **A run of characters none of which ends a word is one token.** -/
theorem tokensFrom_word {w : List Char} (hw : IsWord w) {rest : List Char}
    (hrest : EndsWord rest) :
    tokensFrom .between (w ++ rest) = (tokensFrom .between rest).map (.word w :: ·) := by
  cases w with
  | nil => exact absurd rfl hw.ne_nil
  | cons c cs =>
    have hc : endsWord c = false := hw.inside c List.mem_cons_self
    have hstep : Place.step c .between = some ([], .word [c]) := by
      rw [Place.step, enter_of_endsWord hc]
    rw [List.cons_append, tokensFrom_of_step hstep,
      tokensFrom_run (fun d hd => hw.inside d (List.mem_cons_of_mem c hd)) [c] hrest]
    rfl

/-! ### Numbers and names -/

theorem isWord_of_all {w : List Char} (hne : w ≠ [])
    (h : (w.all fun c => !endsWord c) = true) : IsWord w := by
  constructor
  · exact hne
  · intro c hc
    exact Bool.not_eq_true' _ ▸ List.all_eq_true.mp h c hc

theorem isWord_null : IsWord "null".toList := isWord_of_all (by decide) rfl

theorem isWord_true : IsWord "true".toList := isWord_of_all (by decide) rfl

theorem isWord_false : IsWord "false".toList := isWord_of_all (by decide) rfl

theorem endsWord_of_isDigit {c : Char} (h : isDigit c = true) : endsWord c = false := by
  simp [endsWord, punctuation?, isSpace, ne_of_isDigit h]

theorem isWord_digits (n : Nat) : IsWord (digits n) := by
  constructor
  · exact Nat.toDigits_ne_nil
  · intro c hc
    exact endsWord_of_isDigit (isDigit_of_mem_digits hc)

theorem IsWord.cons {c : Char} {w : List Char} (hc : endsWord c = false) (hw : IsWord w) :
    IsWord (c :: w) := by
  constructor
  · simp
  · intro d hd
    rcases List.mem_cons.mp hd with rfl | hd
    · exact hc
    · exact hw.inside d hd

theorem isWord_intDigits (i : Int) : IsWord (intDigits i) := by
  unfold intDigits
  split
  · exact (isWord_digits _).cons (by decide)
  · exact isWord_digits _

section

variable {ds : List Char} (hds : IsWord ds)

include hds

theorem isWord_positionalText {mark : List Char} (hmark : ∀ c ∈ mark, endsWord c = false)
    (e : Int) : IsWord (Binary64.positionalText mark ds e) := by
  have hzero : endsWord '0' = false := by decide
  have hpoint : endsWord '.' = false := by decide
  have hne := hds.ne_nil
  unfold Binary64.positionalText
  split
  · constructor
    · simp [hne]
    · intro c hc
      simp only [List.mem_append, List.mem_replicate] at hc
      rcases hc with (hc | ⟨-, rfl⟩) | hc
      · exact hds.inside c hc
      · exact hzero
      · exact hmark c hc
  · simp only
    split
    · constructor
      · simp
      · intro c hc
        simp only [List.mem_append, List.mem_cons] at hc
        rcases hc with hc | rfl | hc
        · exact hds.inside c (List.mem_of_mem_take hc)
        · exact hpoint
        · exact hds.inside c (List.mem_of_mem_drop hc)
    · constructor
      · simp
      · intro c hc
        simp only [List.mem_cons, List.mem_append, List.mem_replicate] at hc
        rcases hc with rfl | rfl | ⟨-, rfl⟩ | hc
        · exact hzero
        · exact hpoint
        · exact hzero
        · exact hds.inside c hc

theorem isWord_scientificText (power : Int) : IsWord (Binary64.scientificText ds power) := by
  unfold Binary64.scientificText
  constructor
  · simp
  · intro c hc
    simp only [List.mem_append, List.mem_cons] at hc
    rcases hc with (hc | hc) | rfl | rfl | hc
    · exact hds.inside c (List.mem_of_mem_take hc)
    · split at hc
      · exact nomatch hc
      · next hdrop =>
        rcases List.mem_cons.mp hc with rfl | hc
        · decide
        · exact hds.inside c (List.mem_of_mem_drop hc)
    · decide
    · split <;> decide
    · exact endsWord_of_isDigit (isDigit_of_mem_digits hc)

end

theorem isWord_text (x : Binary64) : IsWord (x.text .marked) := by
  have hmark : IsWord Binary64.Layout.marked.wholeMark := isWord_of_all (by decide) rfl
  have hmagnitude : ∀ rank, IsWord (Binary64.magnitudeText .marked rank) := by
    intro rank
    unfold Binary64.magnitudeText
    simp only
    split
    · exact isWord_positionalText (isWord_digits _) hmark.inside _
    · exact isWord_scientificText (isWord_digits _) _
  cases x with
  | nan => exact isWord_null
  | infinite negative => exact isWord_null
  | finite negative rank =>
    cases negative with
    | false => exact hmagnitude rank
    | true => exact (hmagnitude rank).cons (by decide)

/-! ### Values -/

mutual

/-- The tokens that a value is written from. -/
def written : Json → List Token
  | null => [.word "null".toList]
  | bool true => [.word "true".toList]
  | bool false => [.word "false".toList]
  | int i => [.word (intDigits i)]
  | float x => [.word (x.text .marked)]
  | string s => [.string (some s)]
  | array items => .arrayStart :: (writtenItems items ++ [.arrayEnd])
  | object members => .objectStart :: (writtenMembers members ++ [.objectEnd])

def writtenItems : List Json → List Token
  | [] => []
  | [v] => written v
  | v :: vs => written v ++ .comma :: writtenItems vs

def writtenMembers : List (String × Json) → List Token
  | [] => []
  | [(k, v)] => .string (some k) :: .colon :: written v
  | (k, v) :: ms => .string (some k) :: .colon :: (written v ++ .comma :: writtenMembers ms)

end

theorem tokensFrom_punctuation {c : Char} {t : Token} (h : punctuation? c = some t)
    (rest : List Char) :
    tokensFrom .between (c :: rest) = (tokensFrom .between rest).map (t :: ·) := by
  apply tokensFrom_of_token
  simp only [Place.step, enter, h]

theorem endsWord_cons {c : Char} {t : Token} (h : punctuation? c = some t) (rest : List Char) :
    EndsWord (c :: rest) := by
  intro d hd
  rw [← Option.some.inj hd]
  simp [endsWord, h]

mutual

/-- **The text of a value is read as the tokens that it was written from.** -/
theorem tokensFrom_chars (v : Json) {rest : List Char} (hrest : EndsWord rest) :
    tokensFrom .between (v.chars ++ rest) =
      (tokensFrom .between rest).map (v.written ++ ·) := by
  cases v with
  | null => exact tokensFrom_word isWord_null hrest
  | bool b =>
    cases b with
    | false => exact tokensFrom_word isWord_false hrest
    | true => exact tokensFrom_word isWord_true hrest
  | int i => exact tokensFrom_word (isWord_intDigits i) hrest
  | float x => exact tokensFrom_word (isWord_text x) hrest
  | string s => exact tokensFrom_quoted s rest
  | array items =>
    have hend : EndsWord (']' :: rest) := endsWord_cons rfl rest
    rw [chars, List.cons_append, tokensFrom_punctuation rfl, List.append_assoc,
      List.singleton_append, tokensFrom_itemChars items hend, tokensFrom_punctuation rfl]
    simp [written, Function.comp_def]
  | object members =>
    have hend : EndsWord ('\x7d' :: rest) := endsWord_cons rfl rest
    rw [chars, List.cons_append, tokensFrom_punctuation rfl, List.append_assoc,
      List.singleton_append, tokensFrom_memberChars members hend, tokensFrom_punctuation rfl]
    simp [written, Function.comp_def]

theorem tokensFrom_itemChars (vs : List Json) {rest : List Char} (hrest : EndsWord rest) :
    tokensFrom .between (itemChars vs ++ rest) =
      (tokensFrom .between rest).map (writtenItems vs ++ ·) := by
  match vs with
  | [] => simp [itemChars, writtenItems]
  | [v] => exact tokensFrom_chars v hrest
  | v :: w :: vs =>
    have hcomma : EndsWord (',' :: (itemChars (w :: vs) ++ rest)) := endsWord_cons rfl _
    rw [itemChars, List.append_assoc, List.cons_append, tokensFrom_chars v hcomma,
      tokensFrom_punctuation rfl, tokensFrom_itemChars (w :: vs) hrest]
    · simp [writtenItems, Function.comp_def]
    · simp

theorem tokensFrom_memberChars (ms : List (String × Json)) {rest : List Char}
    (hrest : EndsWord rest) :
    tokensFrom .between (memberChars ms ++ rest) =
      (tokensFrom .between rest).map (writtenMembers ms ++ ·) := by
  match ms with
  | [] => simp [memberChars, writtenMembers]
  | [(k, v)] =>
    rw [memberChars, List.append_assoc, List.cons_append, tokensFrom_quoted,
      tokensFrom_punctuation rfl, tokensFrom_chars v hrest]
    simp [writtenMembers, Function.comp_def]
  | (k, v) :: m :: ms =>
    have hcomma : EndsWord (',' :: (memberChars (m :: ms) ++ rest)) := endsWord_cons rfl _
    rw [memberChars, List.append_assoc, List.cons_append, List.append_assoc, List.cons_append,
      tokensFrom_quoted, tokensFrom_punctuation rfl, tokensFrom_chars v hcomma,
      tokensFrom_punctuation rfl, tokensFrom_memberChars (m :: ms) hrest]
    · simp [writtenMembers, Function.comp_def]
    · simp

end

theorem tokens_chars (v : Json) : tokens v.chars = some v.written := by
  have hend : EndsWord [] := by
    intro c hc
    exact nomatch hc
  have hread := tokensFrom_chars v hend
  rw [List.append_nil] at hread
  rw [tokens, hread]
  simp [tokensFrom]

end Json

end Criteria
