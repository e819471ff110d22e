/-
  Criteria/Value/Tokens.lean
  ==========================
  **Token sets in text.**  A text is cut at every comma; white space around a
  piece does not belong to it, and a piece with nothing else is no token.

  `tokens` mirrors `split_tokens`.
-/
import Criteria.Text.Blank

namespace Criteria

def Text.tokens (cs : List Char) : List (List Char) :=
  ((cs.splitOn ',').map trim).filter fun t => !t.isEmpty

/-- The tokens of a text, in order and with duplicates kept. -/
def tokens (s : String) : List String := (Text.tokens s.toList).map String.ofList

end Criteria
