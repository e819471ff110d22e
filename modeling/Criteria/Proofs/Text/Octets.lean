/-
  Criteria/Proofs/Text/Octets.lean
  ================================
  **Octets and characters.**  A character of the first 128 is one octet, and no other
  character starts with it.  In a text of single octets a cut after so many octets is
  one after so many characters; in any text a cut that is possible loses nothing, and
  one after the width of a part is one behind that part.
-/
import Criteria.Text.Octets
import Mathlib.Data.List.Basic
import Mathlib.Tactic.SplitIfs

namespace Criteria.Text

/-! ### First octets -/

def octets (cs : List Char) : List UInt8 := cs.flatMap String.utf8EncodeChar

/-- Only a character of the first 128 itself has its octet for the first. -/
theorem head?_utf8EncodeChar_iff {c d : Char} (hd : d.toNat < 128) :
    (String.utf8EncodeChar c).head? = some (UInt8.ofNat d.toNat) ↔ c = d := by
  have hbyte : ∀ v : Nat, UInt8.ofNat v = UInt8.ofNat d.toNat ↔ v % 256 = d.toNat := by
    intro v
    rw [← UInt8.toNat_inj, UInt8.toNat_ofNat', UInt8.toNat_ofNat', Nat.mod_eq_of_lt (a := d.toNat)]
    omega
  have hnat : c.toNat = c.val.toNat := rfl
  rw [← Char.toNat_inj]
  unfold String.utf8EncodeChar
  simp only
  split_ifs with h1 h2 h3
  · rw [List.head?_cons, Option.some.injEq, hbyte]
    omega
  · rw [List.head?_cons, Option.some.injEq, hbyte]
    omega
  · rw [List.head?_cons, Option.some.injEq, hbyte]
    omega
  · rw [List.head?_cons, Option.some.injEq, hbyte]
    omega

theorem head?_octets_cons (c : Char) (cs : List Char) :
    (octets (c :: cs)).head? = (String.utf8EncodeChar c).head? := by
  rw [octets, List.flatMap_cons, List.head?_append_of_ne_nil _ String.utf8EncodeChar_ne_nil]

/-! ### Cuts -/

theorem cut?_append {n : Nat} {cs front rest : List Char} (h : cut? n cs = some (front, rest)) :
    cs = front ++ rest := by
  induction n, cs using cut?.induct generalizing front rest with
  | case1 cs =>
    simp only [cut?, Option.some.injEq, Prod.mk.injEq] at h
    rw [← h.1, ← h.2, List.nil_append]
  | case2 n => exact nomatch h
  | case3 n c cs hwide => simp [cut?, hwide] at h
  | case4 n c cs hnarrow ih =>
    rw [cut?, if_neg hnarrow] at h
    obtain ⟨⟨a, b⟩, hcut, hparts⟩ := Option.map_eq_some_iff.mp h
    rw [Prod.mk.injEq] at hparts
    rw [← hparts.1, ← hparts.2, List.cons_append, ← ih hcut]

/-! ### Widths -/

theorem width_cons (c : Char) (cs : List Char) : width (c :: cs) = c.utf8Size + width cs := by
  have hfold : ∀ n, cs.foldl (fun n c => n + c.utf8Size) n = n + width cs := by
    unfold width
    induction cs with
    | nil =>
      intro n
      rfl
    | cons d cs ih =>
      intro n
      rw [List.foldl_cons, ih, List.foldl_cons, ih (0 + d.utf8Size)]
      omega
  rw [width, List.foldl_cons, hfold, Nat.zero_add]

theorem width_append (a b : List Char) : width (a ++ b) = width a + width b := by
  induction a with
  | nil => exact (Nat.zero_add _).symm
  | cons c a ih => rw [List.cons_append, width_cons, ih, width_cons, Nat.add_assoc]

/-- A text is cut behind a part by the width of the part. -/
theorem cut?_width (a b : List Char) : cut? (width a) (a ++ b) = some (a, b) := by
  induction a with
  | nil => rw [show width [] = 0 from rfl, List.nil_append, cut?]
  | cons c a ih =>
    obtain ⟨n, hn⟩ := Nat.exists_eq_add_of_lt c.utf8Size_pos
    have hwidth : width (c :: a) = n + width a + 1 := by
      rw [width_cons]
      omega
    have hrest : n + width a + 1 - c.utf8Size = width a := by omega
    rw [hwidth, List.cons_append, cut?, if_neg (by omega), hrest, ih]
    rfl

theorem between?_width (a b c : List Char) :
    between? (width a) (width (a ++ b)) (a ++ (b ++ c)) = some b := by
  rw [between?, ← List.append_assoc, cut?_width, Option.bind_some]
  simp only [cut?_width, Option.map_some]

example : between? 3 6 "aä€b".toList = some ['€'] := by decide

section

variable {cs : List Char} (hnarrow : ∀ c ∈ cs, c.utf8Size = 1)

include hnarrow

theorem width_eq_length : width cs = cs.length := by
  induction cs with
  | nil => rfl
  | cons c cs ih =>
    have htail := ih fun d hd => hnarrow d (List.mem_cons_of_mem c hd)
    rw [width_cons, htail, hnarrow c List.mem_cons_self, List.length_cons, Nat.add_comm]

theorem cut?_of_narrow {n : Nat} (hn : n ≤ cs.length) :
    cut? n cs = some (cs.take n, cs.drop n) := by
  induction cs generalizing n with
  | nil =>
    rw [List.length_nil, Nat.le_zero] at hn
    rw [hn]
    rfl
  | cons c cs ih =>
    cases n with
    | zero => rfl
    | succ n =>
      have hc : c.utf8Size = 1 := hnarrow c List.mem_cons_self
      have htail := ih (fun d hd => hnarrow d (List.mem_cons_of_mem c hd))
        (Nat.le_of_succ_le_succ hn)
      rw [cut?, hc, if_neg (by omega), Nat.add_sub_cancel, htail]
      rfl

end

end Criteria.Text
