/-
  Criteria/Proofs/Sql/TextOrder.lean
  ==================================
  **Written date-times are in order as texts.**  Numbers of one count of digits are
  in the order of their texts.  A fraction of a second is written in as many groups
  of three digits as it needs, so one fraction may be the front of another; it is
  then the lesser of the two (`byCodePoint_groups`).  A whole second ends where
  another has a point.  From the year down to the fraction each part is compared
  before the next, as date-times are, and a leap second has the number 60.  What is
  in order is the time that a text shows; two times with one text are two only
  where a clock does not show them (`DateTime.shown`).

  The years are those from 0 to 9999; others are written with a sign.
-/
import Criteria.Proofs.Calendar.Chronology
import Criteria.Proofs.Calendar.Clock
import Criteria.Proofs.Sql.Expression
import Criteria.Proofs.Text.Digits

namespace Criteria.Sql

open Text

/-! ### Texts with parts -/

theorem byCodePoint_append {as as' : List Char} (h : as.length = as'.length)
    (bs bs' : List Char) :
    byCodePoint (as ++ bs) (as' ++ bs') = (byCodePoint as as').then (byCodePoint bs bs') := by
  induction as generalizing as' with
  | nil =>
    obtain rfl := List.length_eq_zero_iff.mp h.symm
    rfl
  | cons a as ih =>
    cases as' with
    | nil => exact nomatch h
    | cons a' as' =>
      simp only [List.cons_append, byCodePoint, ih (Nat.succ.inj h), Ordering.then_assoc]

@[simp] theorem byCodePoint_cons_self (c : Char) (as bs : List Char) :
    byCodePoint (c :: as) (c :: bs) = byCodePoint as bs := by
  simp [byCodePoint]

/-! ### Digits -/

/-- The quotients of two numbers compare before the remainders. -/
theorem compare_div_mod (m n k : Nat) :
    (compare (m / k) (n / k)).then (compare (m % k) (n % k)) = compare m n := by
  refine then_compare_eq Nat.lt_of_div_lt_div Nat.lt_of_div_lt_div fun h => ?_
  have hm := Nat.div_add_mod m k
  have hn := Nat.div_add_mod n k
  rw [h] at hm
  exact compare_eq_compare (by omega) (by omega) (by omega)

theorem byCodePoint_digitChar {j k : Nat} (hj : j < 10) (hk : k < 10) :
    byCodePoint [Nat.digitChar j] [Nat.digitChar k] = compare j k := by
  simp only [byCodePoint, Ordering.then_eq]
  rw [Nat.toNat_digitChar_of_lt_ten hj, Nat.toNat_digitChar_of_lt_ten hk]
  exact compare_eq_compare (by omega) (by omega) (by omega)

/-- Numbers of as many digits are in the order of their texts. -/
theorem byCodePoint_fixedDigits {places m n : Nat} (hm : m < 10 ^ places) (hn : n < 10 ^ places) :
    byCodePoint (fixedDigits places m) (fixedDigits places n) = compare m n := by
  induction places generalizing m n with
  | zero =>
    obtain rfl : m = 0 := Nat.lt_one_iff.mp hm
    obtain rfl : n = 0 := Nat.lt_one_iff.mp hn
    rfl
  | succ p ih =>
    rw [pow_succ'] at hm hn
    have hfront := ih (Nat.div_lt_of_lt_mul hm) (Nat.div_lt_of_lt_mul hn)
    have hlast := byCodePoint_digitChar (Nat.mod_lt m (by decide)) (Nat.mod_lt n (by decide))
    have hlength : (fixedDigits p (m / 10)).length = (fixedDigits p (n / 10)).length := by
      rw [length_fixedDigits, length_fixedDigits]
    rw [fixedDigits, fixedDigits, byCodePoint_append hlength, hfront, hlast, compare_div_mod]

/-- Digits in front of other text are compared first. -/
theorem byCodePoint_fixedDigits_append {places m n : Nat} (hm : m < 10 ^ places)
    (hn : n < 10 ^ places) (cs ds : List Char) :
    byCodePoint (fixedDigits places m ++ cs) (fixedDigits places n ++ ds) =
      (compare m n).then (byCodePoint cs ds) := by
  rw [byCodePoint_append (by rw [length_fixedDigits, length_fixedDigits]),
    byCodePoint_fixedDigits hm hn]

/-! ### Fractions -/

/-- A text that is written of every number but zero puts zero first. -/
theorem byCodePoint_unlessZero {m n : Nat} {as bs : List Char} (has : as ≠ []) (hbs : bs ≠ [])
    (h : m ≠ 0 → n ≠ 0 → byCodePoint as bs = compare m n) :
    byCodePoint (if m = 0 then [] else as) (if n = 0 then [] else bs) = compare m n := by
  obtain ⟨a, as', rfl⟩ := List.exists_cons_of_ne_nil has
  obtain ⟨b, bs', rfl⟩ := List.exists_cons_of_ne_nil hbs
  by_cases hm : m = 0
  · by_cases hn : n = 0
    · rw [if_pos hm, if_pos hn, hm, hn]
      rfl
    · rw [if_pos hm, if_neg hn, compare_lt_iff_lt.mpr (by omega)]
      rfl
  · by_cases hn : n = 0
    · rw [if_neg hm, if_pos hn, compare_gt_iff_gt.mpr (by omega)]
      rfl
    · rw [if_neg hm, if_neg hn, h hm hn]

/-- A number in groups of three digits, at most so many of them, down to the last that is not
    zero. -/
def groups : (count : Nat) → Nat → List Char
  | 0, _ => []
  | k + 1, n => if n = 0 then [] else fixedDigits 3 (n / 1000 ^ k) ++ groups k (n % 1000 ^ k)

theorem byCodePoint_groups {count m n : Nat} (hm : m < 1000 ^ count) (hn : n < 1000 ^ count) :
    byCodePoint (groups count m) (groups count n) = compare m n := by
  induction count generalizing m n with
  | zero =>
    obtain rfl : m = 0 := Nat.lt_one_iff.mp hm
    obtain rfl : n = 0 := Nat.lt_one_iff.mp hn
    rfl
  | succ k ih =>
    rw [pow_succ] at hm hn
    have hpos : 0 < 1000 ^ k := Nat.pow_pos (by decide)
    have hrest := ih (Nat.mod_lt m hpos) (Nat.mod_lt n hpos)
    refine byCodePoint_unlessZero (by simp [fixedDigits]) (by simp [fixedDigits]) fun _ _ => ?_
    rw [byCodePoint_fixedDigits_append (Nat.div_lt_of_lt_mul hm) (Nat.div_lt_of_lt_mul hn), hrest,
      compare_div_mod]

theorem groups_zero (count : Nat) : groups count 0 = [] := by
  cases count <;> rfl

theorem groups_succ (count : Nat) {n : Nat} (hn : n ≠ 0) :
    groups (count + 1) n = fixedDigits 3 (n / 1000 ^ count) ++ groups count (n % 1000 ^ count) :=
  if_neg hn

theorem fractionText_eq_groups (n : Nat) :
    DateTime.fractionText n = if n = 0 then [] else '.' :: groups 3 n := by
  have hmillis : n % 1000 ^ 2 = n % 1000000 := rfl
  have hmicros : n % 1000 ^ 2 % 1000 ^ 1 = n % 1000 := by omega
  unfold DateTime.fractionText
  split_ifs with hzero hthree hsix
  · rfl
  · rw [groups_succ 2 hzero, hmillis, hthree, groups_zero, List.append_nil]
    rfl
  · rw [groups_succ 2 hzero, groups_succ 1 (hmillis ▸ hthree), hmicros, hsix, groups_zero,
      List.append_nil, fixedDigits_add 3 3, Nat.div_div_eq_div_mul,
      show n / 1000 % 10 ^ 3 = n % 1000 ^ 2 / 1000 ^ 1 by omega]
    rfl
  · rw [groups_succ 2 hzero, groups_succ 1 (hmillis ▸ hthree), hmicros, groups_succ 0 hsix,
      pow_zero, Nat.div_one, groups, List.append_nil, fixedDigits_add 3 6, fixedDigits_add 3 3,
      show n % 10 ^ 6 % 10 ^ 3 = n % 1000 from hmicros]
    rfl

theorem byCodePoint_fractionText {m n : Nat} (hm : m < 1000000000) (hn : n < 1000000000) :
    byCodePoint (DateTime.fractionText m) (DateTime.fractionText n) = compare m n := by
  rw [fractionText_eq_groups, fractionText_eq_groups]
  refine byCodePoint_unlessZero (List.cons_ne_nil _ _) (List.cons_ne_nil _ _) fun _ _ => ?_
  rw [byCodePoint_cons_self, byCodePoint_groups hm hn]

/-! ### Times and dates -/

theorem byCodePoint_time (a b : TimeOfDay) :
    byCodePoint (DateTime.clockText a ++ DateTime.fractionText (DateTime.fraction a))
      (DateTime.clockText b ++ DateTime.fractionText (DateTime.fraction b)) =
        a.shown.order b.shown := by
  obtain ⟨hhour, hminute, hsecond, hnano⟩ := a.valid
  obtain ⟨hhour', hminute', hsecond', hnano'⟩ := b.valid
  obtain ⟨-, -, hsecond₁, hnano₁⟩ := a.shown.valid
  obtain ⟨-, -, hsecond₂, hnano₂⟩ := b.shown.valid
  have hnanos := a.nanos_shown
  have hnanos' := b.nanos_shown
  -- A leap second runs over into the number of its second; counted in nanoseconds, what is shown
  -- and what is held are one and the same part of a minute.
  have hnumbers : (compare (a.second + a.nano / 1000000000) (b.second + b.nano / 1000000000)).then
      (compare (a.nano % 1000000000) (b.nano % 1000000000)) =
      compare (a.second * 1000000000 + a.nano) (b.second * 1000000000 + b.nano) :=
    then_compare_eq (by omega) (by omega) fun _ =>
      compare_eq_compare (by omega) (by omega) (by omega)
  have hheld : (compare a.shown.second b.shown.second).then
      (compare a.shown.nano b.shown.nano) =
      compare (a.second * 1000000000 + a.nano) (b.second * 1000000000 + b.nano) := by
    have hshown := a.isShown_shown
    have hshown' := b.isShown_shown
    unfold TimeOfDay.IsShown Calendar.Shown at hshown hshown'
    exact then_compare_eq (by omega) (by omega) fun _ =>
      compare_eq_compare (by omega) (by omega) (by omega)
  simp only [DateTime.clockText, DateTime.fraction, List.append_assoc, List.cons_append]
  rw [byCodePoint_fixedDigits_append (by omega) (by omega), byCodePoint_cons_self,
    byCodePoint_fixedDigits_append (by omega) (by omega), byCodePoint_cons_self,
    byCodePoint_fixedDigits_append (by omega) (by omega),
    byCodePoint_fractionText (Nat.mod_lt _ (by decide)) (Nat.mod_lt _ (by decide)), hnumbers,
    TimeOfDay.order, hheld, a.hour_shown, a.minute_shown, b.hour_shown, b.minute_shown]

/-- **Date-times of the years with four digits are in the order of their texts**, as they are
    shown. -/
theorem byCodePoint_text {f v : DateTime} (hf : 0 ≤ f.date.year ∧ f.date.year ≤ 9999)
    (hv : 0 ≤ v.date.year ∧ v.date.year ≤ 9999) :
    byCodePoint f.text v.text = f.shown.order v.shown := by
  have hmonth (d : Date) : d.month < 10 ^ 2 := by
    obtain ⟨_, ⟨_, htwelve⟩, _⟩ := d.valid
    omega
  have hday (d : Date) : d.day < 10 ^ 2 := by
    obtain ⟨_, _, _, hlast⟩ := d.valid
    have := Calendar.daysIn_le d.year d.month
    omega
  have hyear : compare f.date.year.toNat v.date.year.toNat = compare f.date.year v.date.year :=
    compare_eq_compare (by omega) (by omega) (by omega)
  simp only [DateTime.text, DateTime.textWith, DateTime.dateText, DateTime.yearText, if_pos hf,
    if_pos hv, List.append_assoc, List.cons_append]
  rw [byCodePoint_fixedDigits_append (by omega) (by omega), byCodePoint_cons_self,
    byCodePoint_fixedDigits_append (hmonth _) (hmonth _), byCodePoint_cons_self,
    byCodePoint_fixedDigits_append (hday _) (hday _), byCodePoint_cons_self, hyear]
  simp only [byCodePoint_time, DateTime.order, DateTime.shown, Date.order, Ordering.then_assoc]

end Criteria.Sql
