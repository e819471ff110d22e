/-
  Criteria/Number/Powers.lean
  ===========================
  **Powers and widths.**  Powers of two and of ten, and the whole numbers that a
  word of some bits holds, signed or unsigned.
-/
namespace Criteria

def twoTo (n : Nat) : Nat := Nat.pow 2 n

def tenTo (n : Nat) : Nat := Nat.pow 10 n

def fitsSigned (bits : Nat) (i : Int) : Bool :=
  let half : Int := twoTo (bits - 1)
  i < half && -half ≤ i

def fitsUnsigned (bits : Nat) (i : Int) : Bool := 0 ≤ i && i < (twoTo bits : Int)

end Criteria
