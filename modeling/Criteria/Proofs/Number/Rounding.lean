/-
  Criteria/Proofs/Number/Rounding.lean
  ====================================
  **What is rounded to a magnitude is its interval.**  A ratio is scaled by the power
  of two that leaves it 53 bits before the point, or by the least power there is, and
  the nearest whole number is taken.  `IsRounding` says this of a power and a whole
  number, of which there is one pair for each ratio.

  The interval of a magnitude is defined from the neighbours of the magnitude, with
  no word about how a ratio is scaled.  Yet the ratios in it are those that are
  rounded to the magnitude (`nearestRank_eq_iff`).  The two definitions part only
  just below a power of two: what is there is scaled by one bit more, and rounded
  up to a whole number of 54 bits.
-/
import Criteria.Number.Shortest
import Mathlib.Algebra.Order.Field.Power
import Mathlib.Algebra.Order.Field.Rat
import Mathlib.Tactic.FieldSimp
import Mathlib.Tactic.Linarith
import Mathlib.Tactic.NormNum
import Mathlib.Tactic.Positivity
import Mathlib.Tactic.Ring

namespace Criteria

/-! ### Powers -/

@[simp] theorem cast_twoTo (n : Nat) : ((twoTo n : Nat) : ℚ) = 2 ^ n := by
  simp [twoTo]

@[simp] theorem cast_tenTo (n : Nat) : ((tenTo n : Nat) : ℚ) = 10 ^ n := by
  simp [tenTo]

theorem twoTo_pos (n : Nat) : 0 < twoTo n := Nat.two_pow_pos n

/-- A power is the quotient of its numerator and its denominator, one of which is one. -/
theorem pow_toNat_div {b : ℚ} (hb : b ≠ 0) (e : Int) : b ^ e.toNat / b ^ (-e).toNat = b ^ e := by
  have hparts : e = (e.toNat : Int) - ((-e).toNat : Int) := by omega
  conv_rhs => rw [hparts, zpow_sub₀ hb, zpow_natCast, zpow_natCast]

/-- A ratio that is scaled by a power of two, in numerator or denominator. -/
theorem cast_scaled (num den : Nat) (e : Int) :
    ((num * twoTo (-e).toNat : Nat) : ℚ) / ((den * twoTo e.toNat : Nat) : ℚ) =
      (num : ℚ) / den / 2 ^ e := by
  rw [← pow_toNat_div two_ne_zero e]
  push_cast [cast_twoTo]
  field_simp

namespace Binary64

/-! ### Whole numbers -/

/-- A whole number within a half of `x`, and nearer than that if it is odd. -/
structure RoundsTo (x : ℚ) (n : Nat) : Prop where
  low : (n : ℚ) - 1 / 2 ≤ x
  high : x ≤ n + 1 / 2
  odd : n % 2 = 1 → (n : ℚ) - 1 / 2 < x ∧ x < n + 1 / 2

theorem RoundsTo.le {x : ℚ} {a b : Nat} (ha : RoundsTo x a) (hb : RoundsTo x b) : a ≤ b := by
  by_contra hlt
  have hnext : b + 1 ≤ a := by omega
  have hnext' : (b : ℚ) + 1 ≤ a := by exact_mod_cast hnext
  have hlow := ha.low
  have hhigh := hb.high
  -- both are as far from `x` as is allowed, so neither is odd
  have heq : a = b + 1 := by
    have hcast : (a : ℚ) = b + 1 := by linarith
    exact_mod_cast hcast
  rcases Nat.mod_two_eq_zero_or_one a with heven | hodd
  · have hstrict := (hb.odd (by omega)).2
    linarith
  · have hstrict := (ha.odd hodd).1
    linarith

theorem RoundsTo.unique {x : ℚ} {a b : Nat} (ha : RoundsTo x a) (hb : RoundsTo x b) : a = b :=
  le_antisymm (ha.le hb) (hb.le ha)

theorem roundsTo_self (n : Nat) : RoundsTo (n : ℚ) n :=
  ⟨by linarith, by linarith, fun _ => ⟨by linarith, by linarith⟩⟩

theorem roundsTo_roundHalfEven (num : Nat) {den : Nat} (hden : 0 < den) :
    RoundsTo ((num : ℚ) / den) (roundHalfEven num den) := by
  have hden' : (0 : ℚ) < den := by exact_mod_cast hden
  have hparts : (num : ℚ) / den = (num / den : Nat) + (num % den : Nat) / (den : ℚ) := by
    have hdivmod : (num : ℚ) = den * (num / den : Nat) + (num % den : Nat) := by
      exact_mod_cast (Nat.div_add_mod num den).symm
    rw [eq_comm, eq_div_iff hden'.ne', add_mul, div_mul_cancel₀ _ hden'.ne', mul_comm]
    exact hdivmod.symm
  have hlow : (0 : ℚ) ≤ (num % den : Nat) / (den : ℚ) := by positivity
  have hhigh : ((num % den : Nat) : ℚ) / den < 1 := by
    rw [div_lt_one hden']
    exact_mod_cast Nat.mod_lt num hden
  have hbelow : 2 * (num % den) < den ↔ ((num % den : Nat) : ℚ) / den < 1 / 2 := by
    rw [div_lt_iff₀ hden', ← Nat.cast_lt (α := ℚ)]
    push_cast
    constructor <;> intro h <;> linarith
  have habove : den < 2 * (num % den) ↔ 1 / 2 < ((num % den : Nat) : ℚ) / den := by
    rw [lt_div_iff₀ hden', ← Nat.cast_lt (α := ℚ)]
    push_cast
    constructor <;> intro h <;> linarith
  rw [hparts, roundHalfEven]
  simp only [hbelow, habove]
  generalize ((num % den : Nat) : ℚ) / den = t at *
  generalize num / den = k at *
  split_ifs with hsmall hlarge
  · exact ⟨by linarith, by linarith, fun _ => ⟨by linarith, by linarith⟩⟩
  · refine ⟨?_, ?_, fun _ => ⟨?_, ?_⟩⟩ <;> push_cast <;> linarith
  · -- a half: the whole number that is taken is even
    have hhalf : t = 1 / 2 := by linarith
    have heven : (k + k % 2) % 2 ≠ 1 := by omega
    rcases Nat.mod_two_eq_zero_or_one k with hk | hk
    · rw [hk] at heven ⊢
      refine ⟨?_, ?_, fun h => absurd h heven⟩ <;> push_cast <;> linarith
    · rw [hk] at heven ⊢
      refine ⟨?_, ?_, fun h => absurd h heven⟩ <;> push_cast <;> linarith

/-! ### Scaling -/

theorem floorLog2_le_iff {num den : Nat} (hden : 0 < den) (k : Int) :
    den * twoTo k.toNat ≤ num * twoTo (-k).toNat ↔ (2 : ℚ) ^ k ≤ num / den := by
  have hpos : (0 : ℚ) < (den * twoTo k.toNat : Nat) := by
    exact_mod_cast Nat.mul_pos hden (twoTo_pos _)
  have hpow : (0 : ℚ) < 2 ^ k := by positivity
  rw [← Nat.cast_le (α := ℚ), ← one_le_div hpos, cast_scaled, one_le_div hpow]

/-- **The power of two at or below a ratio.** -/
theorem floorLog2_spec {num den : Nat} (hnum : 0 < num) (hden : 0 < den) :
    (2 : ℚ) ^ floorLog2 num den ≤ num / den ∧ (num : ℚ) / den < 2 ^ (floorLog2 num den + 1) := by
  have hden' : (0 : ℚ) < den := by exact_mod_cast hden
  have hnumLow : (2 : ℚ) ^ num.log2 ≤ num := by exact_mod_cast Nat.log2_self_le hnum.ne'
  have hnumHigh : (num : ℚ) < 2 ^ (num.log2 + 1) := by exact_mod_cast Nat.lt_log2_self
  have hdenLow : (2 : ℚ) ^ den.log2 ≤ den := by exact_mod_cast Nat.log2_self_le hden.ne'
  have hdenHigh : (den : ℚ) < 2 ^ (den.log2 + 1) := by exact_mod_cast Nat.lt_log2_self
  have hbelow : (2 : ℚ) ^ ((num.log2 : Int) - den.log2 - 1) ≤ num / den := by
    rw [sub_sub, zpow_sub₀ two_ne_zero, div_le_div_iff₀ (by positivity) hden']
    exact mul_le_mul hnumLow (by exact_mod_cast hdenHigh.le) hden'.le (by positivity)
  have habove : (num : ℚ) / den < 2 ^ ((num.log2 : Int) - den.log2 + 1) := by
    rw [sub_add_eq_add_sub, zpow_sub₀ two_ne_zero, div_lt_div_iff₀ hden' (by positivity)]
    exact mul_lt_mul (by exact_mod_cast hnumHigh) (by exact_mod_cast hdenLow) (by positivity)
      (by positivity)
  unfold floorLog2
  simp only [floorLog2_le_iff hden]
  split_ifs with h
  · exact ⟨h, habove⟩
  · refine ⟨hbelow, ?_⟩
    rw [sub_add_cancel]
    exact not_le.mp h

/-- A ratio is scaled by a power of two and rounded to a whole number: the scaled ratio has 53 bits
    before the point, or fewer if the power is the least. -/
structure IsRounding (v : ℚ) (q : Int) (n : Nat) : Prop where
  least : -1074 ≤ q
  leading : -1074 < q → 2 ^ 52 ≤ v / 2 ^ q
  below : v / 2 ^ q < 2 ^ 53
  nearest : RoundsTo (v / 2 ^ q) n

theorem IsRounding.le {v : ℚ} {q r : Int} {m n : Nat} (hq : IsRounding v q m)
    (hr : IsRounding v r n) : q ≤ r := by
  by_contra hlt
  have hnext : r + 1 ≤ q := by omega
  have hleading := hq.leading (by have := hr.least; omega)
  have hbelow := hr.below
  rw [le_div_iff₀ (by positivity)] at hleading
  rw [div_lt_iff₀ (by positivity)] at hbelow
  have hpowers : (2 : ℚ) ^ (r + 1) ≤ 2 ^ q := zpow_le_zpow_right₀ one_le_two hnext
  rw [zpow_add_one₀ two_ne_zero] at hpowers
  linarith

theorem IsRounding.unique {v : ℚ} {q r : Int} {m n : Nat} (hq : IsRounding v q m)
    (hr : IsRounding v r n) : q = r ∧ m = n := by
  obtain rfl : q = r := le_antisymm (hq.le hr) (hr.le hq)
  exact ⟨rfl, hq.nearest.unique hr.nearest⟩

/-- What the rank of a ratio is made of. -/
theorem exists_isRounding (num : Nat) {den : Nat} (hden : 0 < den) :
    ∃ q n, IsRounding ((num : ℚ) / den) q n ∧
      (nearestRank num den : Int) = (q + 1074) * 2 ^ 52 + n := by
  rcases Nat.eq_zero_or_pos num with rfl | hnum
  · refine ⟨-1074, 0, ⟨le_refl _, ?_, ?_, ?_, ?_, ?_⟩, ?_⟩ <;> simp [nearestRank]
  · obtain ⟨hlow, hhigh⟩ := floorLog2_spec hnum hden
    have hrank : nearestRank num den =
        (max (-1074) (floorLog2 num den - 52) + 1074).toNat * twoTo 52 +
          roundHalfEven (num * twoTo (-max (-1074) (floorLog2 num den - 52)).toNat)
            (den * twoTo (max (-1074) (floorLog2 num den - 52)).toNat) := by
      rw [nearestRank, if_neg hnum.ne']
    rw [hrank]
    generalize floorLog2 num den = k at *
    generalize hq : max (-1074) (k - 52) = q at *
    have hleast : -1074 ≤ q := by omega
    have hscaled := roundsTo_roundHalfEven (num * twoTo (-q).toNat)
      (Nat.mul_pos hden (twoTo_pos q.toNat))
    rw [cast_scaled] at hscaled
    refine ⟨q, _, ⟨hleast, ?_, ?_, hscaled⟩, ?_⟩
    · intro hnormal
      obtain rfl : k = q + 52 := by omega
      rw [le_div_iff₀ (by positivity)]
      calc (2 : ℚ) ^ 52 * 2 ^ q = 2 ^ (q + 52) := by
            rw [zpow_add₀ two_ne_zero, mul_comm]
            rfl
        _ ≤ num / den := hlow
    · rw [div_lt_iff₀ (by positivity)]
      calc (num : ℚ) / den < 2 ^ (k + 1) := hhigh
        _ ≤ 2 ^ (q + 53) := zpow_le_zpow_right₀ one_le_two (by omega)
        _ = 2 ^ 53 * 2 ^ q := by
            rw [zpow_add₀ two_ne_zero, mul_comm]
            rfl
    · have htoNat : ((q + 1074).toNat : Int) = q + 1074 := by omega
      have hbits : twoTo 52 = 2 ^ 52 := rfl
      rw [hbits]
      push_cast [htoNat]
      ring

/-! ### The parts of a rank -/

/-- The significand and the exponent that a rank is made of. -/
structure IsParts (rank m : Nat) (q : Int) : Prop where
  least : -1074 ≤ q
  below : m < 2 ^ 53
  leading : -1074 < q → 2 ^ 52 ≤ m
  rank_eq : (rank : Int) = (q + 1074) * 2 ^ 52 + m

theorem isParts (rank : Nat) : IsParts rank (significand rank) (exponent rank) := by
  have hbits : twoTo 52 = 4503599627370496 := rfl
  unfold significand exponent
  rw [hbits]
  split_ifs with h
  · exact ⟨by omega, by omega, by omega, by omega⟩
  · exact ⟨by omega, by omega, by omega, by omega⟩

theorem IsParts.eq {rank m : Nat} {q : Int} (h : IsParts rank m q) :
    significand rank = m ∧ exponent rank = q := by
  obtain ⟨hleast, hbelow, hleading, hrank⟩ := h
  have hbits : twoTo 52 = 4503599627370496 := rfl
  unfold significand exponent
  rw [hbits]
  split_ifs with hsmall
  · omega
  · omega

/-! ### Intervals -/

/-- A ratio lies between the ends of an interval, or at one of them if it is closed. -/
structure Interval.Covers (i : Interval) (v : ℚ) : Prop where
  low : (i.low : ℚ) * 2 ^ i.unit ≤ v
  high : v ≤ i.high * 2 ^ i.unit
  between : i.closed = false → (i.low : ℚ) * 2 ^ i.unit < v ∧ v < i.high * 2 ^ i.unit

theorem Interval.Covers.convex {i : Interval} {a b c : ℚ} (ha : i.Covers a) (hc : i.Covers c)
    (hab : a ≤ b) (hbc : b ≤ c) : i.Covers b :=
  ⟨ha.low.trans hab, hbc.trans hc.high, fun hopen =>
    ⟨(ha.between hopen).1.trans_le hab, hbc.trans_lt (hc.between hopen).2⟩⟩

/-- In quarters of the last place of a magnitude an interval is one of whole numbers. -/
theorem Interval.covers_iff_quarters (i : Interval) {q : Int} (hunit : i.unit = q - 2) (v : ℚ) :
    i.Covers v ↔ (i.low : ℚ) ≤ 4 * (v / 2 ^ q) ∧ 4 * (v / 2 ^ q) ≤ i.high ∧
      (i.closed = false → (i.low : ℚ) < 4 * (v / 2 ^ q) ∧ 4 * (v / 2 ^ q) < i.high) := by
  have hpos : (0 : ℚ) < 2 ^ (q - 2) := by positivity
  have hquarter : (2 : ℚ) ^ q = 2 ^ (q - 2) * 4 := by
    rw [zpow_sub₀ two_ne_zero]
    norm_num
  have hv : v = 4 * (v / 2 ^ q) * 2 ^ (q - 2) := by
    rw [hquarter]
    field_simp
  constructor
  · rintro ⟨hlow, hhigh, hopen⟩
    rw [hunit, hv] at hlow hhigh hopen
    refine ⟨le_of_mul_le_mul_right hlow hpos, le_of_mul_le_mul_right hhigh hpos, ?_⟩
    intro h
    exact ⟨lt_of_mul_lt_mul_right (hopen h).1 hpos.le, lt_of_mul_lt_mul_right (hopen h).2 hpos.le⟩
  · rintro ⟨hlow, hhigh, hopen⟩
    refine ⟨?_, ?_, ?_⟩
    · rw [hunit, hv]
      exact mul_le_mul_of_nonneg_right hlow hpos.le
    · rw [hunit, hv]
      exact mul_le_mul_of_nonneg_right hhigh hpos.le
    · intro h
      rw [hunit, hv]
      exact ⟨mul_lt_mul_of_pos_right (hopen h).1 hpos, mul_lt_mul_of_pos_right (hopen h).2 hpos⟩

section

variable {rank m : Nat} {q : Int} (h : IsParts rank m q)

include h

theorem unit_interval : (interval rank).unit = q - 2 := by
  rw [interval, h.eq.2]

theorem high_interval : ((interval rank).high : ℚ) = 4 * m + 2 := by
  rw [interval, h.eq.1]
  push_cast
  rfl

theorem closed_interval : (interval rank).closed = false ↔ m % 2 = 1 := by
  rw [interval, h.eq.1, decide_eq_false_iff_not]
  omega

theorem low_interval_of_power (hpower : m = 2 ^ 52 ∧ -1074 < q) :
    ((interval rank).low : ℚ) = 4 * m - 1 := by
  have hbits : twoTo 52 = 2 ^ 52 := rfl
  rw [interval, h.eq.1, h.eq.2, hbits, if_pos hpower, hpower.1]
  norm_num

theorem low_interval (hpower : ¬(m = 2 ^ 52 ∧ -1074 < q)) (hm : 0 < m) :
    ((interval rank).low : ℚ) = 4 * m - 2 := by
  have hbits : twoTo 52 = 2 ^ 52 := rfl
  rw [interval, h.eq.1, h.eq.2, hbits, if_neg hpower]
  push_cast [Nat.cast_sub (show 2 ≤ 4 * m by omega)]
  rfl

/-- The lower end is half a place away, but below a power of two a quarter. -/
theorem low_interval_le_iff {x : ℚ} (hx : 0 ≤ x) :
    ((interval rank).low : ℚ) ≤ 4 * x ↔
      (m : ℚ) - 1 / 2 ≤ x ∧ (m = 2 ^ 52 → -1074 < q → (m : ℚ) - 1 / 4 ≤ x) := by
  by_cases hpower : m = 2 ^ 52 ∧ -1074 < q
  · rw [low_interval_of_power h hpower]
    constructor
    · intro hlow
      exact ⟨by linarith, fun _ _ => by linarith⟩
    · rintro ⟨-, hquarter⟩
      have hlow := hquarter hpower.1 hpower.2
      linarith
  · have hno : m = 2 ^ 52 → -1074 < q → (m : ℚ) - 1 / 4 ≤ x := fun h1 h2 => absurd ⟨h1, h2⟩ hpower
    rcases Nat.eq_zero_or_pos m with hzero | hm
    · have hlow : (interval rank).low = 0 := by
        rw [interval, h.eq.1, hzero]
        rfl
      rw [hlow, hzero]
      push_cast
      exact ⟨fun _ => ⟨by linarith, by simp⟩, fun _ => by linarith⟩
    · rw [low_interval h hpower hm]
      constructor
      · intro hlow
        exact ⟨by linarith, hno⟩
      · rintro ⟨hlow, -⟩
        linarith

/-- **The interval of a magnitude in terms of its parts**: what rounds to the significand, but below
    a power of two only what is twice as near. -/
theorem covers_interval_iff {v : ℚ} (hv : 0 ≤ v) :
    (interval rank).Covers v ↔
      RoundsTo (v / 2 ^ q) m ∧ (m = 2 ^ 52 → -1074 < q → (m : ℚ) - 1 / 4 ≤ v / 2 ^ q) := by
  have hx : 0 ≤ v / 2 ^ q := by positivity
  have hodd : m % 2 = 1 → ((interval rank).low : ℚ) = 4 * m - 2 := by
    intro hm
    apply low_interval h
    · rintro ⟨rfl, -⟩
      exact absurd hm (by decide)
    · omega
  rw [Interval.covers_iff_quarters _ (unit_interval h), high_interval h, closed_interval h,
    low_interval_le_iff h hx]
  generalize v / 2 ^ q = x at *
  constructor
  · rintro ⟨⟨hlow, hquarter⟩, hhigh, hopen⟩
    refine ⟨⟨hlow, by linarith, ?_⟩, hquarter⟩
    intro hm
    have hstrict := hopen hm
    rw [hodd hm] at hstrict
    exact ⟨by linarith, by linarith⟩
  · rintro ⟨⟨hlow, hhigh, hstrict⟩, hquarter⟩
    refine ⟨⟨hlow, hquarter⟩, by linarith, ?_⟩
    intro hm
    rw [hodd hm]
    have hends := hstrict hm
    exact ⟨by linarith, by linarith⟩

end

section

variable {v : ℚ} (hv : 0 ≤ v)

theorem scaled_succ (v : ℚ) (q : Int) : v / 2 ^ q = v / 2 ^ (q + 1) * 2 := by
  rw [zpow_add_one₀ two_ne_zero]
  field_simp

include hv

/-- A ratio is in the interval of the rank that it is rounded to. -/
theorem IsRounding.covers {q : Int} {n rank : Nat} (h : IsRounding v q n)
    (hrank : (rank : Int) = (q + 1074) * 2 ^ 52 + n) : (interval rank).Covers v := by
  have hlow := h.nearest.low
  have hbelow := h.below
  have hn : n ≤ 2 ^ 53 := by
    have hlt : (n : ℚ) < 2 ^ 53 + 1 := by linarith
    have hlt' : n < 2 ^ 53 + 1 := by exact_mod_cast hlt
    omega
  have hleading : -1074 < q → 2 ^ 52 ≤ n := by
    intro hq
    have hge := h.leading hq
    have hhigh := h.nearest.high
    have hlt : (2 : ℚ) ^ 52 < n + 1 := by linarith
    have hlt' : 2 ^ 52 < n + 1 := by exact_mod_cast hlt
    omega
  rcases Nat.lt_or_eq_of_le hn with hn | rfl
  · rw [covers_interval_iff ⟨h.least, hn, hleading, hrank⟩ hv]
    refine ⟨h.nearest, ?_⟩
    rintro rfl hq
    have hge := h.leading hq
    push_cast
    linarith
  · -- rounded up to 54 bits, which is the least significand of the next exponent
    have hnext : (rank : Int) = (q + 1 + 1074) * 2 ^ 52 + (2 ^ 52 : Nat) := by
      rw [hrank]
      push_cast
      ring
    have hleast := h.least
    rw [covers_interval_iff ⟨by omega, by norm_num, fun _ => le_refl _, hnext⟩ hv]
    rw [scaled_succ v q] at hlow hbelow
    push_cast at hlow ⊢
    refine ⟨⟨by linarith, by linarith, by norm_num⟩, fun _ _ => by linarith⟩

/-- What is in the interval of a rank is rounded to that rank. -/
theorem exists_isRounding_of_covers {rank : Nat} (h : (interval rank).Covers v) :
    ∃ q n, IsRounding v q n ∧ (rank : Int) = (q + 1074) * 2 ^ 52 + n := by
  have hparts := isParts rank
  obtain ⟨hnear, hquarter⟩ := (covers_interval_iff hparts hv).mp h
  generalize significand rank = m at *
  generalize exponent rank = q at *
  have hm : (m : ℚ) ≤ 2 ^ 53 - 1 := by
    have hle : m + 1 ≤ 2 ^ 53 := hparts.below
    have hle' : (m : ℚ) + 1 ≤ 2 ^ 53 := by exact_mod_cast hle
    linarith
  have hhigh := hnear.high
  by_cases hbelow : -1074 < q ∧ v / 2 ^ q < 2 ^ 52
  · -- just below a power of two the scaled ratio has one bit more
    obtain ⟨hq, hbelow⟩ := hbelow
    have hpower : m = 2 ^ 52 := by
      have hlow := hnear.low
      have hlt : (m : ℚ) < 2 ^ 52 + 1 := by linarith
      have hlt' : m < 2 ^ 52 + 1 := by exact_mod_cast hlt
      have hge := hparts.leading hq
      omega
    have hlow := hquarter hpower hq
    have hscaled := scaled_succ v (q - 1)
    rw [sub_add_cancel] at hscaled
    rw [hpower] at hlow
    push_cast at hlow
    refine ⟨q - 1, 2 ^ 53, ⟨by omega, ?_, ?_, ?_⟩, ?_⟩
    · intro
      rw [hscaled]
      linarith
    · rw [hscaled]
      linarith
    · rw [hscaled]
      refine ⟨?_, ?_, by norm_num⟩ <;> push_cast <;> linarith
    · rw [hparts.rank_eq, hpower]
      push_cast
      ring
  · refine ⟨q, m, ⟨hparts.least, ?_, by linarith, hnear⟩, hparts.rank_eq⟩
    intro hq
    by_contra hlt
    exact hbelow ⟨hq, not_le.mp hlt⟩

end

/-- **What is rounded to a magnitude is its interval.** -/
theorem nearestRank_eq_iff {num den rank : Nat} (hden : 0 < den) :
    nearestRank num den = rank ↔ (interval rank).Covers ((num : ℚ) / den) := by
  have hv : (0 : ℚ) ≤ num / den := by positivity
  obtain ⟨q, n, hround, hrank⟩ := exists_isRounding num hden
  constructor
  · rintro rfl
    exact hround.covers hv hrank
  · intro hcovers
    obtain ⟨q', n', hround', hrank'⟩ := exists_isRounding_of_covers hv hcovers
    obtain ⟨rfl, rfl⟩ := hround.unique hround'
    exact_mod_cast hrank.trans hrank'.symm

end Binary64

end Criteria
