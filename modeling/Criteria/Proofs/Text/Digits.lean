/-
  Criteria/Proofs/Text/Digits.lean
  ================================
  **Numbers read back from their digits.**  The digits of a number are read as the
  number; written with a fixed count of places, as what is left of it modulo that
  power of ten.
-/
import Criteria.Text.Digits
import Mathlib.Data.Nat.ModEq
import Mathlib.Tactic.Ring

namespace Criteria.Text

theorem toNat_of_isDigit {c : Char} (h : isDigit c = true) : 48 ≤ c.toNat ∧ c.toNat ≤ 57 := by
  simpa [isDigit, Char.le_def, UInt32.le_iff_toNat_le] using h

theorem ne_of_isDigit {c : Char} (h : isDigit c = true) (d : Char)
    (hd : d.toNat < 48 ∨ 57 < d.toNat) : c ≠ d := by
  rintro rfl
  have hrange := toNat_of_isDigit h
  omega

theorem isDigit_of_mem_digits {n : Nat} {c : Char} (h : c ∈ digits n) : isDigit c = true := by
  have hdigit := Nat.isDigit_of_mem_toDigits (by decide) (by decide) h
  simpa [Char.isDigit, isDigit, Char.le_def] using hdigit

theorem readNat_digits (n : Nat) : readNat (digits n) = some n := by
  have hne : (digits n).isEmpty = false := by simp [digits]
  have hall : (digits n).all isDigit = true := by
    rw [List.all_eq_true]
    exact fun c hc => isDigit_of_mem_digits hc
  have hvalue : digitsValue (digits n) = n := Nat.ofDigitChars_ten_toDigits
  simp only [readNat, hne, hall, hvalue, if_true, Bool.false_eq_true, if_false]

/-- Zeros at the end of a number are written as they stand. -/
theorem digits_mul_pow {n : Nat} (hn : 0 < n) (k : Nat) :
    digits (n * 10 ^ k) = digits n ++ List.replicate k '0' := by
  induction k with
  | zero => simp
  | succ k ih =>
    have hpos : 0 < n * 10 ^ k := Nat.mul_pos hn (Nat.pow_pos (by decide))
    have hlast : digits (n * 10 ^ k) ++ digits 0 = digits (10 * (n * 10 ^ k) + 0) :=
      Nat.toDigits_append_toDigits (by decide) hpos (by decide)
    have hnext : n * 10 ^ (k + 1) = 10 * (n * 10 ^ k) + 0 := by ring
    have hzero : digits 0 = ['0'] := rfl
    rw [hnext, ← hlast, ih, hzero, List.append_assoc, List.replicate_succ']

/-- A number of more than one digit does not start with a zero. -/
theorem eq_nil_of_digits_eq {n : Nat} {ds : List Char} (h : digits n = '0' :: ds) : ds = [] := by
  induction n using Nat.strongRecOn generalizing ds with
  | ind n ih =>
    by_cases hn : n < 10
    · have hone : digits n = [Nat.digitChar n] := Nat.toDigits_of_lt_base hn
      rw [hone, List.cons.injEq] at h
      exact h.2.symm
    · have hlast : digits n = digits (n / 10) ++ [Nat.digitChar (n % 10)] :=
        Nat.toDigits_of_base_le (by decide) (by omega)
      have hread := readNat_digits (n / 10)
      cases hfront : digits (n / 10) with
      | nil =>
        rw [hfront] at hread
        exact nomatch hread
      | cons c front =>
        rw [hlast, hfront, List.cons_append, List.cons.injEq] at h
        rw [h.1] at hfront
        rw [hfront, ih (n / 10) (by omega) hfront] at hread
        have hzero : 0 = n / 10 := Option.some.inj hread
        omega

/-! ### Fixed places -/

theorem digitChar_spec {k : Nat} (h : k < 10) :
    isDigit (Nat.digitChar k) = true ∧ digitValue (Nat.digitChar k) = k := by
  revert k
  decide

theorem digitsValue_concat (ds : List Char) (c : Char) :
    digitsValue (ds ++ [c]) = 10 * digitsValue ds + digitValue c := by
  simp [digitsValue, List.foldl_append]

theorem all_isDigit_fixedDigits (places n : Nat) : (fixedDigits places n).all isDigit = true := by
  induction places generalizing n with
  | zero => rfl
  | succ p ih =>
    have hlast := (digitChar_spec (Nat.mod_lt n (by decide : 0 < 10))).1
    simp [fixedDigits, ih, hlast]

theorem digitsValue_fixedDigits (places n : Nat) :
    digitsValue (fixedDigits places n) = n % 10 ^ places := by
  induction places generalizing n with
  | zero => rw [pow_zero, Nat.mod_one]; rfl
  | succ p ih =>
    have hlast := (digitChar_spec (Nat.mod_lt n (by decide : 0 < 10))).2
    rw [fixedDigits, digitsValue_concat, ih, hlast, pow_succ', Nat.mod_mul, Nat.add_comm]

theorem length_fixedDigits (places n : Nat) : (fixedDigits places n).length = places := by
  induction places generalizing n with
  | zero => rfl
  | succ p ih => rw [fixedDigits, List.length_append, ih, List.length_singleton]

/-- Digits in two parts: the quotient and the remainder. -/
theorem fixedDigits_add (p q n : Nat) :
    fixedDigits (p + q) n = fixedDigits p (n / 10 ^ q) ++ fixedDigits q (n % 10 ^ q) := by
  induction q generalizing n with
  | zero => simp [fixedDigits]
  | succ q ih =>
    rw [← Nat.add_assoc, fixedDigits, fixedDigits, ih, Nat.div_div_eq_div_mul, ← pow_succ',
      pow_succ' 10 q, Nat.mod_mul_right_div_self, Nat.mod_mul_right_mod, List.append_assoc]

theorem isDigit_of_mem_fixedDigits {places n : Nat} {c : Char} (h : c ∈ fixedDigits places n) :
    isDigit c = true :=
  List.all_eq_true.mp (all_isDigit_fixedDigits places n) c h

theorem readNat_fixedDigits (places : Nat) {n : Nat} (hn : n < 10 ^ (places + 1)) :
    readNat (fixedDigits (places + 1) n) = some n := by
  have hne : (fixedDigits (places + 1) n).isEmpty = false := by simp [fixedDigits]
  simp only [readNat, hne, all_isDigit_fixedDigits, digitsValue_fixedDigits, Nat.mod_eq_of_lt hn,
    if_true, Bool.false_eq_true, if_false]

/-! ### At least as many places -/

theorem isDigit_of_mem_paddedDigits {places n : Nat} {c : Char} (h : c ∈ paddedDigits places n) :
    isDigit c = true := by
  rcases List.mem_append.mp h with hzero | hdigit
  · rw [List.eq_of_mem_replicate hzero]
    rfl
  · exact isDigit_of_mem_digits hdigit

theorem digitsValue_append_zeros (n : Nat) (ds : List Char) :
    digitsValue (List.replicate n '0' ++ ds) = digitsValue ds := by
  induction n with
  | zero => rfl
  | succ n ih =>
    rw [List.replicate_succ, List.cons_append, ← ih]
    rfl

theorem digitsValue_paddedDigits (places n : Nat) : digitsValue (paddedDigits places n) = n := by
  rw [paddedDigits, digitsValue_append_zeros]
  exact Nat.ofDigitChars_ten_toDigits

theorem paddedDigits_ne_nil (places n : Nat) : paddedDigits places n ≠ [] := by
  intro h
  exact Nat.toDigits_ne_nil (List.append_eq_nil_iff.mp h).2

/-! ### Digits in front of other text -/

/-- Digits are taken off a text as far as there are any, up to the number allowed. -/
theorem takeDigits_append {ds : List Char} (hds : ∀ c ∈ ds, isDigit c = true) (rest : List Char) :
    takeDigits ds.length (ds ++ rest) = (ds, rest) := by
  induction ds with
  | nil => rfl
  | cons d ds ih =>
    have hd : isDigit d = true := hds d List.mem_cons_self
    have htail := ih fun c hc => hds c (List.mem_cons_of_mem d hc)
    simp only [List.length_cons, List.cons_append, takeDigits, hd, if_true, htail]

/-- Digits are taken off a text as far as there are any. -/
theorem span_digits {ds rest : List Char} (hds : ∀ c ∈ ds, isDigit c = true)
    (hrest : ∀ c ∈ rest.head?, isDigit c = false) :
    (ds ++ rest).takeWhile isDigit = ds ∧ (ds ++ rest).dropWhile isDigit = rest := by
  have hstop : rest.takeWhile isDigit = [] ∧ rest.dropWhile isDigit = rest := by
    cases rest with
    | nil => exact ⟨rfl, rfl⟩
    | cons c rest => simp [hrest c rfl]
  rw [List.takeWhile_append_of_pos hds, List.dropWhile_append_of_pos hds, hstop.1, hstop.2,
    List.append_nil]
  exact ⟨rfl, rfl⟩

theorem readInt_of_digits {ds : List Char} (hds : ∀ c ∈ ds, isDigit c = true) :
    readInt ds = (readNat ds).map Int.ofNat := by
  cases ds with
  | nil => rfl
  | cons d ds =>
    have hd : isDigit d = true := hds d List.mem_cons_self
    unfold readInt
    split
    · next heq =>
      rw [List.cons.injEq] at heq
      rw [heq.1] at hd
      exact absurd hd (by decide)
    · next heq =>
      rw [List.cons.injEq] at heq
      rw [heq.1] at hd
      exact absurd hd (by decide)
    · rfl

theorem readIntIn_fixedDigits (places : Nat) {n : Nat} (hn : n < 10 ^ (places + 1))
    {lo hi : Int} (hlo : lo ≤ n) (hhi : n ≤ hi) :
    readIntIn lo hi (fixedDigits (places + 1) n) = some (n : Int) := by
  have hread : readInt (fixedDigits (places + 1) n) = some (n : Int) := by
    rw [readInt_of_digits fun c hc => isDigit_of_mem_fixedDigits hc, readNat_fixedDigits places hn]
    rfl
  simp [readIntIn, hread, Option.filter, hlo, hhi]

/-! ### What is read as a number -/

/-- Digits alone, at least one of them, that write a number. -/
structure IsNumeral (n : Nat) (ds : List Char) : Prop where
  nonempty : ds ≠ []
  digits : ∀ c ∈ ds, isDigit c = true
  value : digitsValue ds = n

theorem readNat_eq_some_iff {cs : List Char} {n : Nat} : readNat cs = some n ↔ IsNumeral n cs := by
  unfold readNat
  constructor
  · intro h
    split at h
    · exact nomatch h
    · next hne =>
      split at h
      · next hall =>
        exact ⟨by simpa using hne, List.all_eq_true.mp hall, Option.some.inj h⟩
      · exact nomatch h
  · rintro ⟨hne, hdigits, rfl⟩
    rw [if_neg (by simpa using hne), if_pos (List.all_eq_true.mpr hdigits)]

/-- A numeral with at most one sign in front of it. -/
inductive IsSignedNumeral : Int → List Char → Prop where
  | bare {n : Nat} {ds : List Char} (h : IsNumeral n ds) : IsSignedNumeral n ds
  | plus {n : Nat} {ds : List Char} (h : IsNumeral n ds) : IsSignedNumeral n ('+' :: ds)
  | minus {n : Nat} {ds : List Char} (h : IsNumeral n ds) : IsSignedNumeral (-n) ('-' :: ds)

/-- **A whole number is read exactly from the signed numerals.** -/
theorem readInt_eq_some_iff {cs : List Char} {i : Int} :
    readInt cs = some i ↔ IsSignedNumeral i cs := by
  constructor
  · intro h
    unfold readInt at h
    split at h
    · obtain ⟨n, hn, rfl⟩ := Option.map_eq_some_iff.mp h
      exact .plus (readNat_eq_some_iff.mp hn)
    · obtain ⟨n, hn, rfl⟩ := Option.map_eq_some_iff.mp h
      exact .minus (readNat_eq_some_iff.mp hn)
    · obtain ⟨n, hn, rfl⟩ := Option.map_eq_some_iff.mp h
      exact .bare (readNat_eq_some_iff.mp hn)
  · intro h
    cases h with
    | bare h =>
      rw [readInt_of_digits h.digits, readNat_eq_some_iff.mpr h]
      rfl
    | plus h =>
      rw [readInt, readNat_eq_some_iff.mpr h]
      rfl
    | minus h =>
      rw [readInt, readNat_eq_some_iff.mpr h]
      rfl

theorem IsSignedNumeral.mem {cs : List Char} {i : Int} (h : IsSignedNumeral i cs) {c : Char}
    (hc : c ∈ cs) : isDigit c = true ∨ c = '+' ∨ c = '-' := by
  cases h with
  | bare h => exact .inl (h.digits c hc)
  | plus h =>
    rcases List.mem_cons.mp hc with rfl | hc
    · exact .inr (.inl rfl)
    · exact .inl (h.digits c hc)
  | minus h =>
    rcases List.mem_cons.mp hc with rfl | hc
    · exact .inr (.inr rfl)
    · exact .inl (h.digits c hc)

theorem intDigits_neg {n : Nat} (hn : 0 < n) : intDigits (-n) = '-' :: digits n := by
  have hneg : -(n : Int) < 0 := by omega
  rw [intDigits, if_pos hneg, Int.natAbs_neg, Int.natAbs_natCast]

theorem intDigits_natCast (n : Nat) : intDigits n = digits n := by
  have hnonneg : ¬(n : Int) < 0 := by omega
  rw [intDigits, if_neg hnonneg, Int.natAbs_natCast]

theorem readInt_intDigits (i : Int) : readInt (intDigits i) = some i := by
  have hdigits : ∀ n, IsNumeral n (digits n) := fun n => readNat_eq_some_iff.mp (readNat_digits n)
  apply readInt_eq_some_iff.mpr
  rcases lt_or_ge i 0 with hneg | hnonneg
  · obtain ⟨n, rfl⟩ : ∃ n : Nat, i = -(n : Int) := ⟨i.natAbs, by omega⟩
    rw [intDigits_neg (by omega)]
    exact .minus (hdigits n)
  · obtain ⟨n, rfl⟩ := Int.eq_ofNat_of_zero_le hnonneg
    rw [intDigits_natCast]
    exact .bare (hdigits n)

/-- **The digits of a whole number are those of no other.** -/
theorem intDigits_inj {i j : Int} : intDigits i = intDigits j ↔ i = j := by
  constructor
  · intro h
    have hread := congrArg readInt h
    rwa [readInt_intDigits, readInt_intDigits, Option.some.injEq] at hread
  · rintro rfl
    rfl

theorem readInt_signedDigits (i : Int) : readInt (signedDigits i) = some i := by
  have hread := readNat_digits i.natAbs
  by_cases h : i < 0
  · rw [signedDigits, if_pos h, readInt, hread, Option.map_some]
    exact congrArg some (by simp only [Int.ofNat_eq_natCast]; omega)
  · rw [signedDigits, if_neg h, readInt, hread, Option.map_some]
    exact congrArg some (by simp only [Int.ofNat_eq_natCast]; omega)

/-- Outside the signs and the digits there is no character of a number. -/
theorem ne_of_mem_signedDigits {i : Int} {c : Char} (h : c ∈ signedDigits i) (d : Char)
    (hd : d.toNat < 43 ∨ 57 < d.toNat) : c ≠ d := by
  rintro rfl
  rcases List.mem_cons.mp h with hsign | hdigit
  · revert hd
    rw [hsign]
    split <;> decide
  · have hrange := toNat_of_isDigit (isDigit_of_mem_digits hdigit)
    omega

/-- Without a sign a signed numeral is a numeral. -/
theorem IsSignedNumeral.isNumeral {cs : List Char} {n : Nat} (h : IsSignedNumeral n cs)
    (hsign : ∀ c ∈ cs, c ≠ '+' ∧ c ≠ '-') : IsNumeral n cs := by
  generalize hi : (n : Int) = i at h
  cases h with
  | bare h =>
    rw [Int.ofNat_inj.mp hi]
    exact h
  | plus h => exact absurd rfl (hsign '+' List.mem_cons_self).1
  | minus h => exact absurd rfl (hsign '-' List.mem_cons_self).2

theorem readIntIn_eq_some_iff {cs : List Char} {i : Int} {hi : Nat} :
    readIntIn 0 hi cs = some i ↔ ∃ n : Nat, i = n ∧ n ≤ hi ∧ IsSignedNumeral n cs := by
  rw [readIntIn, Option.filter_eq_some_iff, readInt_eq_some_iff, Bool.and_eq_true,
    decide_eq_true_eq, decide_eq_true_eq]
  constructor
  · rintro ⟨hread, hlow, hhigh⟩
    obtain ⟨n, rfl⟩ := Int.eq_ofNat_of_zero_le hlow
    exact ⟨n, rfl, by omega, hread⟩
  · rintro ⟨n, rfl, hhigh, hread⟩
    exact ⟨hread, by omega, by omega⟩

end Criteria.Text
