/-
  Criteria/Environment.lean
  =========================
  **Variables of the surroundings.**  Names with texts, in the order in which
  they were set.
-/
namespace Criteria

/-- Variables, each name once. -/
abbrev Variables := List (List Char × List Char)

namespace Variables

def text (vs : Variables) (name : List Char) : List Char := (vs.lookup name).getD []

/-- A variable set, unless it is already. -/
def supply (vs : Variables) (name text : List Char) : Variables :=
  if (vs.lookup name).isSome then vs else vs ++ [(name, text)]

end Variables

end Criteria
