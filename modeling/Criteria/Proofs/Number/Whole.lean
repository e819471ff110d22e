/-
  Criteria/Proofs/Number/Whole.lean
  =================================
  **Whole numbers that pass through a double.**  The double nearest to a whole number
  of 64 bits is written as a whole number again, for the grid of whole numbers has
  one in the interval, the number itself, and so the search for digits ends there
  at the latest.  What is written lies in the interval as well, so it has the same
  nearest double (`exists_whole`).

  Up to `2 ^ 53` what is written is the number itself: an interval there has one
  whole number.  At the bound itself it has a second one, and the digits decide.
-/
import Criteria.Number.Layout
import Criteria.Proofs.Number.Shortest
import Criteria.Proofs.Text.Digits

namespace Criteria.Binary64

open Text

/-! ### Exponents of whole numbers -/

/-- A whole number is whole in places that are fractions. -/
theorem cast_div_of_nonpos (n : Nat) {q : Int} (hq : q ≤ 0) :
    (n : ℚ) / 2 ^ q = (n * 2 ^ (-q).toNat : Nat) := by
  rw [← pow_toNat_div two_ne_zero q, Int.toNat_of_nonpos hq, pow_zero, one_div, div_inv_eq_mul]
  push_cast
  rfl

section

variable {rank n : Nat} (h : (interval rank).Covers (n : ℚ))

include h

/-- What is covered is near to the significand, once it is scaled. -/
theorem roundsTo_of_covers : RoundsTo ((n : ℚ) / 2 ^ exponent rank) (significand rank) :=
  ((covers_interval_iff (isParts rank) (by positivity)).mp h).1

/-- A positive whole number is not smaller than a last place. -/
theorem exponent_ge_of_covers (hn : 0 < n) : -52 ≤ exponent rank := by
  by_contra hlt
  have hhigh := (roundsTo_of_covers h).high
  have hm : (significand rank : ℚ) + 1 ≤ 2 ^ 53 := by exact_mod_cast (isParts rank).below
  have hpow : (2 : ℚ) ^ exponent rank ≤ 2 ^ (-53 : Int) :=
    zpow_le_zpow_right₀ one_le_two (by omega)
  have hone : (1 : ℚ) ≤ n := by exact_mod_cast hn
  have hscaled : (2 : ℚ) ^ 53 ≤ n / 2 ^ exponent rank := by
    rw [le_div_iff₀ (by positivity)]
    calc (2 : ℚ) ^ 53 * 2 ^ exponent rank ≤ 2 ^ 53 * 2 ^ (-53 : Int) := by gcongr
      _ = 1 := by norm_num
      _ ≤ n := hone
  linarith

/-- A whole number below a power of two has an exponent that its bits allow. -/
theorem exponent_lt_of_covers {k : Nat} (hn : (n : ℚ) < 2 ^ (52 + k) - 2 ^ k / 4) :
    exponent rank < k := by
  by_contra hge
  have hparts := isParts rank
  obtain ⟨hnear, hquarter⟩ := (covers_interval_iff hparts (by positivity)).mp h
  have hnormal : -1074 < exponent rank := by omega
  have hpow : (2 : ℚ) ^ k ≤ 2 ^ exponent rank := by
    rw [← zpow_natCast]
    exact zpow_le_zpow_right₀ one_le_two (by omega)
  have hscaled : (2 : ℚ) ^ 52 - 1 / 4 ≤ n / 2 ^ exponent rank := by
    rcases (hparts.leading hnormal).eq_or_lt with hm | hm
    · have hlow := hquarter hm.symm hnormal
      rw [← hm] at hlow
      push_cast at hlow
      exact hlow
    · have hlow := hnear.low
      have hnext : (2 : ℚ) ^ 52 + 1 ≤ significand rank := by exact_mod_cast hm
      linarith
  rw [le_div_iff₀ (by positivity)] at hscaled
  have hbound : ((2 : ℚ) ^ 52 - 1 / 4) * 2 ^ k ≤ n :=
    (mul_le_mul_of_nonneg_left hpow (by norm_num)).trans hscaled
  rw [pow_add] at hn
  linarith

/-- **Where places are fractions an interval has one whole number.** -/
theorem eq_of_covers {n' : Nat} (h' : (interval rank).Covers (n' : ℚ))
    (hplaces : exponent rank ≤ 0) : n = n' := by
  have hn := roundsTo_of_covers h
  have hn' := roundsTo_of_covers h'
  rw [cast_div_of_nonpos _ hplaces] at hn hn'
  have heq := ((roundsTo_self _).unique hn).trans ((roundsTo_self _).unique hn').symm
  exact Nat.eq_of_mul_eq_mul_right (Nat.pow_pos (by decide)) heq

end

/-! ### What is written -/

/-- A decimal on a grid of whole numbers. -/
def Decimal.toNat (d : Decimal) : Nat := d.digits * 10 ^ d.exponent.toNat

theorem Decimal.cast_toNat {d : Decimal} (h : 0 ≤ d.exponent) :
    (d.toNat : ℚ) = d.digits * 10 ^ d.exponent := by
  have hexponent : d.exponent = (d.exponent.toNat : Int) := by omega
  rw [hexponent, zpow_natCast, toNat]
  push_cast
  rfl

theorem positionalText_whole {d : Decimal} (hdigits : 0 < d.digits) (h : 0 ≤ d.exponent) :
    positionalText [] (digits d.digits) d.exponent = digits d.toNat := by
  rw [positionalText, if_pos h, List.append_nil, Decimal.toNat, digits_mul_pow hdigits]

theorem covers_nearestRank (n : Nat) : (interval (nearestRank n 1)).Covers (n : ℚ) := by
  have hcovers : (interval (nearestRank n 1)).Covers ((n : ℚ) / (1 : Nat)) :=
    (nearestRank_eq_iff one_pos).mp rfl
  rwa [Nat.cast_one, div_one] at hcovers

section

variable {n : Nat} (hpos : 0 < n) (hn : n ≤ 2 ^ 64)

include hpos hn

/-- The exponents of whole numbers of 64 bits. -/
theorem exponent_whole :
    -52 ≤ exponent (nearestRank n 1) ∧ exponent (nearestRank n 1) < 13 := by
  refine ⟨exponent_ge_of_covers (covers_nearestRank n) hpos, ?_⟩
  apply exponent_lt_of_covers (k := 13) (covers_nearestRank n)
  have hcast : (n : ℚ) ≤ 2 ^ 64 := by exact_mod_cast hn
  linarith

theorem nearestRank_whole : 0 < nearestRank n 1 ∧ nearestRank n 1 < magnitudes := by
  obtain ⟨hlow, hhigh⟩ := exponent_whole hpos hn
  obtain ⟨-, hbelow, -, hsum⟩ := isParts (nearestRank n 1)
  have hall : magnitudes = 2047 * 4503599627370496 := rfl
  omega

/-- **The double nearest to a whole number of 64 bits is written as a whole number**, and that has
    the same nearest double. -/
theorem shortest_whole :
    0 < (shortest .up (nearestRank n 1)).digits ∧
      0 ≤ (shortest .up (nearestRank n 1)).exponent ∧
      nearestRank (shortest .up (nearestRank n 1)).toNat 1 = nearestRank n 1 := by
  have hrank := (nearestRank_whole hpos hn).1
  obtain ⟨hlow, hhigh⟩ := exponent_whole hpos hn
  have hitself : (interval (nearestRank n 1)).Covers ((n : ℚ) * 10 ^ (0 : Int)) := by
    rw [zpow_zero, mul_one]
    exact covers_nearestRank n
  have htop : 0 ≤ topGrid (exponent (nearestRank n 1)) ∧
      topGrid (exponent (nearestRank n 1)) < 0 + 40 := by
    unfold topGrid
    omega
  obtain ⟨hcovers, hexponent⟩ := shortest_covers .up hrank hitself htop.1 htop.2
  generalize nearestRank n 1 = rank at *
  have hsame : nearestRank (shortest .up rank).toNat 1 = rank := by
    rw [nearestRank_eq_iff one_pos, Decimal.cast_toNat hexponent, Nat.cast_one, div_one]
    exact hcovers
  refine ⟨Nat.pos_of_ne_zero ?_, hexponent, hsame⟩
  intro hzero
  rw [Decimal.toNat, hzero, Nat.zero_mul] at hsame
  exact absurd hsame hrank.ne

/-- Up to `2 ^ 53` it is the number itself. -/
theorem shortest_toNat (hsmall : n ≤ 2 ^ 53) : (shortest .up (nearestRank n 1)).toNat = n := by
  rcases hsmall.eq_or_lt with rfl | hlt
  · -- two whole numbers lie in the interval, one of them at its end
    decide +kernel
  · have hcovers := covers_nearestRank (shortest .up (nearestRank n 1)).toNat
    rw [(shortest_whole hpos hn).2.2] at hcovers
    have hexponent : exponent (nearestRank n 1) < 1 := by
      apply exponent_lt_of_covers (k := 1) (covers_nearestRank n)
      have hle : (n : ℚ) + 1 ≤ 2 ^ 53 := by exact_mod_cast hlt
      linarith
    exact eq_of_covers hcovers (covers_nearestRank n) (by omega)

/-- What is written of a magnitude that is nearest to a whole number of 64 bits. -/
theorem exists_whole_magnitude :
    ∃ w : Nat, 0 < w ∧ nearestRank w 1 = nearestRank n 1 ∧
      magnitudeText .plain (nearestRank n 1) = digits w ∧ (n ≤ 2 ^ 53 → w = n) := by
  obtain ⟨hdigits, hexponent, hsame⟩ := shortest_whole hpos hn
  refine ⟨(shortest .up (nearestRank n 1)).toNat, ?_, hsame, ?_, shortest_toNat hpos hn⟩
  · exact Nat.mul_pos hdigits (Nat.pow_pos (by decide))
  · exact positionalText_whole hdigits hexponent

end

/-! ### Signs -/

theorem ofInt_of_neg {n : Nat} (hpos : 0 < n) : ofInt (-n) = ofRank true (nearestRank n 1) := by
  have hneg : -(n : Int) < 0 := by omega
  simp only [ofInt, ofRatio, hneg, decide_true, Int.natAbs_neg, Int.natAbs_natCast]

theorem ofInt_of_nonneg (n : Nat) : ofInt n = ofRank false (nearestRank n 1) := by
  have hnonneg : ¬(n : Int) < 0 := by omega
  simp only [ofInt, ofRatio, hnonneg, decide_false, Int.natAbs_natCast]

theorem text_ofRank {rank : Nat} (h : rank < magnitudes) (l : Layout) (negative : Bool) :
    (ofRank negative rank).text l =
      if negative then '-' :: magnitudeText l rank else magnitudeText l rank := by
  rw [ofRank, dif_pos h, text]

/-- **The double nearest to a whole number of 64 bits is written as a whole number** that has the
    same nearest double; up to `2 ^ 53` it is the number itself. -/
theorem exists_whole {i : Int} (hi : i.natAbs ≤ 2 ^ 64) :
    ∃ w : Int, ofInt w = ofInt i ∧ (ofInt i).text .plain = intDigits w ∧
      (i.natAbs ≤ 2 ^ 53 → w = i) := by
  rcases lt_trichotomy i 0 with hneg | rfl | hpos
  · obtain ⟨n, rfl⟩ : ∃ n : Nat, i = -(n : Int) := ⟨i.natAbs, by omega⟩
    rw [Int.natAbs_neg, Int.natAbs_natCast] at hi ⊢
    have hn : 0 < n := by omega
    obtain ⟨w, hw, hsame, htext, hsmall⟩ := exists_whole_magnitude hn hi
    refine ⟨-(w : Int), ?_, ?_, ?_⟩
    · rw [ofInt_of_neg hw, hsame, ofInt_of_neg hn]
    · rw [ofInt_of_neg hn, text_ofRank (nearestRank_whole hn hi).2, if_pos rfl, htext,
        intDigits_neg hw]
    · intro hle
      rw [hsmall hle]
  · exact ⟨0, rfl, rfl, fun _ => rfl⟩
  · obtain ⟨n, rfl⟩ := Int.eq_ofNat_of_zero_le hpos.le
    rw [Int.natAbs_natCast] at hi ⊢
    have hn : 0 < n := by omega
    obtain ⟨w, -, hsame, htext, hsmall⟩ := exists_whole_magnitude hn hi
    refine ⟨(w : Int), ?_, ?_, ?_⟩
    · rw [ofInt_of_nonneg, hsame, ofInt_of_nonneg]
    · rw [ofInt_of_nonneg, text_ofRank (nearestRank_whole hn hi).2, if_neg Bool.false_ne_true,
        htext, intDigits_natCast]
    · intro hle
      rw [hsmall hle]

-- Past that bound it need not be: two numbers have the same nearest double.
example : (ofInt 9007199254740993).text .plain = intDigits 9007199254740992 := by decide +kernel

end Criteria.Binary64
