/-
  Criteria/Proofs/Number/Shortest.lean
  ====================================
  **The shortest decimal lies in the interval.**  On the grid of multiples of a power
  of ten only the two neighbours of a magnitude are tried, and that is enough: the
  interval goes from one side of the magnitude to the other, so if it has a multiple
  at all, it has the neighbour on that side (`exists_onGrid`).  The search goes from
  coarse grids to fine ones.  It therefore ends no later than at a grid that is known
  to have a multiple in the interval, whichever multiple that is
  (`shortest_covers`).
-/
import Criteria.Proofs.Number.Rounding

namespace Criteria.Binary64

/-! ### Multiples of a power of ten -/

namespace Interval

/-- Whether the multiple `c * 10 ^ k` lies in an interval, decided over one denominator. -/
def within (i : Interval) (k : Int) (c : Nat) : Bool :=
  let up := twoTo i.unit.toNat * tenTo (-k).toNat
  let den := twoTo (-i.unit).toNat * tenTo k.toNat
  if i.closed then i.low * up ≤ c * den && c * den ≤ i.high * up
  else i.low * up < c * den && c * den < i.high * up

/-- The multiple at or below the magnitude. -/
def below (i : Interval) (k : Int) : Nat :=
  i.mid * (twoTo i.unit.toNat * tenTo (-k).toNat) / (twoTo (-i.unit).toNat * tenTo k.toNat)

variable (i : Interval) (k : Int)

/-- The ends of an interval and the multiples of a power of ten have a common denominator. -/
theorem exists_scale :
    ∃ s : ℚ, 0 < s ∧
      (∀ a : Nat, ((a * (twoTo i.unit.toNat * tenTo (-k).toNat) : Nat) : ℚ) =
        a * 2 ^ i.unit * s) ∧
      ∀ c : Nat, ((c * (twoTo (-i.unit).toNat * tenTo k.toNat) : Nat) : ℚ) = c * 10 ^ k * s := by
  refine ⟨2 ^ (-i.unit).toNat * 10 ^ (-k).toNat, by positivity, ?_, ?_⟩
  · intro a
    rw [← pow_toNat_div two_ne_zero i.unit]
    push_cast [cast_twoTo, cast_tenTo]
    field_simp
  · intro c
    have hten : (10 : ℚ) ≠ 0 := by norm_num
    rw [← pow_toNat_div hten k]
    push_cast [cast_twoTo, cast_tenTo]
    field_simp

theorem within_iff (c : Nat) : i.within k c = true ↔ i.Covers ((c : ℚ) * 10 ^ k) := by
  obtain ⟨s, hs, hends, hmultiple⟩ := i.exists_scale k
  have hle : ∀ a b : ℚ, a * s ≤ b * s ↔ a ≤ b := fun a b => mul_le_mul_iff_left₀ hs
  have hlt : ∀ a b : ℚ, a * s < b * s ↔ a < b := fun a b => mul_lt_mul_iff_left₀ hs
  unfold within
  dsimp only
  split_ifs with hclosed
  · rw [Bool.and_eq_true, decide_eq_true_eq, decide_eq_true_eq, ← Nat.cast_le (α := ℚ),
      ← Nat.cast_le (α := ℚ), hends, hends, hmultiple, hle, hle]
    constructor
    · rintro ⟨hlow, hhigh⟩
      exact ⟨hlow, hhigh, fun hopen => by simp [hclosed] at hopen⟩
    · rintro ⟨hlow, hhigh, -⟩
      exact ⟨hlow, hhigh⟩
  · rw [Bool.and_eq_true, decide_eq_true_eq, decide_eq_true_eq, ← Nat.cast_lt (α := ℚ),
      ← Nat.cast_lt (α := ℚ), hends, hends, hmultiple, hlt, hlt]
    constructor
    · rintro ⟨hlow, hhigh⟩
      exact ⟨hlow.le, hhigh.le, fun _ => ⟨hlow, hhigh⟩⟩
    · rintro ⟨-, -, hopen⟩
      exact hopen (by simpa using hclosed)

/-- The magnitude lies between two multiples that follow one another. -/
theorem below_spec :
    (i.below k : ℚ) * 10 ^ k ≤ i.mid * 2 ^ i.unit ∧
      (i.mid : ℚ) * 2 ^ i.unit < (i.below k + 1 : Nat) * 10 ^ k := by
  obtain ⟨s, hs, hends, hmultiple⟩ := i.exists_scale k
  have hden : 0 < twoTo (-i.unit).toNat * tenTo k.toNat :=
    Nat.mul_pos (twoTo_pos _) (Nat.pow_pos (by norm_num))
  constructor
  · have hdiv : i.below k * (twoTo (-i.unit).toNat * tenTo k.toNat) ≤
        i.mid * (twoTo i.unit.toNat * tenTo (-k).toNat) := Nat.div_mul_le_self _ _
    rw [← Nat.cast_le (α := ℚ), hends, hmultiple] at hdiv
    exact le_of_mul_le_mul_right hdiv hs
  · have hdiv : i.mid * (twoTo i.unit.toNat * tenTo (-k).toNat) <
        (i.below k + 1) * (twoTo (-i.unit).toNat * tenTo k.toNat) :=
      (Nat.div_lt_iff_lt_mul hden).mp (Nat.lt_succ_self _)
    rw [← Nat.cast_lt (α := ℚ), hends, hmultiple] at hdiv
    exact lt_of_mul_lt_mul_right hdiv hs.le

/-- An interval reaches beyond its magnitude on either side. -/
def Proper (i : Interval) : Prop := i.low < i.mid ∧ i.mid < i.high

variable {i} {k}

theorem Proper.covers (h : i.Proper) : i.Covers ((i.mid : ℚ) * 2 ^ i.unit) := by
  have hpos : (0 : ℚ) < 2 ^ i.unit := by positivity
  have hlow : (i.low : ℚ) * 2 ^ i.unit < i.mid * 2 ^ i.unit :=
    mul_lt_mul_of_pos_right (by exact_mod_cast h.1) hpos
  have hhigh : (i.mid : ℚ) * 2 ^ i.unit < i.high * 2 ^ i.unit :=
    mul_lt_mul_of_pos_right (by exact_mod_cast h.2) hpos
  exact ⟨hlow.le, hhigh.le, fun _ => ⟨hlow, hhigh⟩⟩

/-- **If an interval has a multiple, it has one of the two neighbours of its magnitude.** -/
theorem Covers.neighbour (h : i.Proper) {c : Nat} (hc : i.Covers ((c : ℚ) * 10 ^ k)) :
    i.Covers ((i.below k : ℚ) * 10 ^ k) ∨ i.Covers (((i.below k + 1 : Nat) : ℚ) * 10 ^ k) := by
  obtain ⟨hlow, hhigh⟩ := i.below_spec k
  have hpos : (0 : ℚ) < 10 ^ k := by positivity
  have hmono : ∀ {a b : Nat}, a ≤ b → (a : ℚ) * 10 ^ k ≤ b * 10 ^ k := fun hab =>
    mul_le_mul_of_nonneg_right (by exact_mod_cast hab) hpos.le
  rcases Nat.lt_or_ge (i.below k) c with hlt | hge
  · exact .inr (h.covers.convex hc hhigh.le (hmono hlt))
  · exact .inl (hc.convex h.covers (hmono hge) hlow)

end Interval

theorem proper_interval {rank : Nat} (h : 0 < rank) : (interval rank).Proper := by
  have hbits : twoTo 52 = 4503599627370496 := rfl
  have hm : 0 < significand rank := by
    unfold significand
    rw [hbits]
    split <;> omega
  unfold Interval.Proper interval
  dsimp only
  split <;> omega

/-! ### The search -/

/-- **What a grid gives**, in terms of the two neighbours. -/
theorem onGrid_cases (tie : Tie) (i : Interval) (k : Int) :
    (∃ c, onGrid tie i k = some c ∧ i.within k c = true) ∨
      onGrid tie i k = none ∧ i.within k (i.below k) = false ∧
        i.within k (i.below k + 1) = false := by
  -- of two neighbours that both lie in the interval, one or the other is taken
  obtain ⟨c, hc, hgrid⟩ : ∃ c, (c = i.below k ∨ c = i.below k + 1) ∧ onGrid tie i k =
      if i.within k (i.below k) && i.within k (i.below k + 1) then some c
      else if i.within k (i.below k) then some (i.below k)
      else if i.within k (i.below k + 1) then some (i.below k + 1)
      else none := by
    refine ⟨_, ?_, rfl⟩
    cases tie <;> dsimp only <;> split_ifs <;> unfold Interval.below <;> omega
  rw [hgrid]
  cases hlow : i.within k (i.below k) with
  | false =>
    cases hhigh : i.within k (i.below k + 1) with
    | false => exact .inr ⟨rfl, rfl, rfl⟩
    | true => exact .inl ⟨_, rfl, hhigh⟩
  | true =>
    cases hhigh : i.within k (i.below k + 1) with
    | false => exact .inl ⟨_, rfl, hlow⟩
    | true =>
      refine .inl ⟨c, rfl, ?_⟩
      rcases hc with rfl | rfl
      · exact hlow
      · exact hhigh

variable {tie : Tie} {i : Interval} {k : Int}

theorem covers_of_onGrid {c : Nat} (h : onGrid tie i k = some c) : i.Covers ((c : ℚ) * 10 ^ k) := by
  rcases onGrid_cases tie i k with ⟨d, hd, hwithin⟩ | ⟨hnone, -, -⟩
  · obtain rfl : c = d := Option.some.inj (h.symm.trans hd)
    exact (i.within_iff k c).mp hwithin
  · exact nomatch h.symm.trans hnone

/-- **A grid with a multiple in the interval gives one.** -/
theorem exists_onGrid (tie : Tie) (hproper : i.Proper) {c : Nat}
    (hc : i.Covers ((c : ℚ) * 10 ^ k)) :
    ∃ d, onGrid tie i k = some d := by
  rcases onGrid_cases tie i k with ⟨d, hd, -⟩ | ⟨-, hlow, hhigh⟩
  · exact ⟨d, hd⟩
  · rcases hc.neighbour hproper with h | h
    · rw [(i.within_iff k _).mpr h] at hlow
      exact nomatch hlow
    · rw [(i.within_iff k _).mpr h] at hhigh
      exact nomatch hhigh

theorem covers_of_firstGrid {steps : Nat} {d : Decimal} (h : firstGrid tie i steps k = some d) :
    i.Covers ((d.digits : ℚ) * 10 ^ d.exponent) := by
  induction steps generalizing k with
  | zero => exact nomatch h
  | succ s ih =>
    rw [firstGrid] at h
    split at h
    · next c hc =>
      rw [← Option.some.inj h]
      exact covers_of_onGrid hc
    · exact ih h

/-- The search ends at a grid that is at least as coarse as any grid on its way that has a multiple
    in the interval. -/
theorem exists_firstGrid (tie : Tie) (hproper : i.Proper) {j : Int} {c : Nat}
    (hc : i.Covers ((c : ℚ) * 10 ^ j)) {steps : Nat} (hstart : j ≤ k) (hend : k < j + steps) :
    ∃ d, firstGrid tie i steps k = some d ∧ j ≤ d.exponent := by
  induction steps generalizing k with
  | zero => omega
  | succ s ih =>
    rw [firstGrid]
    rcases hstart.eq_or_lt with rfl | hlt
    · obtain ⟨d, hd⟩ := exists_onGrid tie hproper hc
      rw [hd]
      exact ⟨_, rfl, le_refl _⟩
    · cases onGrid tie i k with
      | some d => exact ⟨_, rfl, hstart⟩
      | none => exact ih (by omega) (by omega)

/-- **The shortest decimal of a magnitude lies in its interval**, on a grid no finer than one that
    is known to have a multiple there. -/
theorem shortest_covers (tie : Tie) {rank : Nat} (hpos : 0 < rank) {j : Int} {c : Nat}
    (hc : (interval rank).Covers ((c : ℚ) * 10 ^ j)) (hstart : j ≤ topGrid (exponent rank))
    (hend : topGrid (exponent rank) < j + 40) :
    (interval rank).Covers
        (((shortest tie rank).digits : ℚ) * 10 ^ (shortest tie rank).exponent) ∧
      j ≤ (shortest tie rank).exponent := by
  obtain ⟨d, hd, hj⟩ := exists_firstGrid tie (proper_interval hpos) hc hstart hend
  have hshortest : shortest tie rank = d := by
    rw [shortest, if_neg hpos.ne', hd, Option.getD_some]
  rw [hshortest]
  exact ⟨covers_of_firstGrid hd, hj⟩

end Criteria.Binary64
