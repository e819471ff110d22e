/-
  Criteria/Settings/Source.lean
  =============================
  **Where settings come from.**  A source says things under keys.  What stands
  under a key counts for a setting by its text; lists, tables and nulls have
  none.  Keys are taken without regard to case, and a key with dots or indices
  leads into what stands under its first part.  Of sources one after the other
  the last word on a setting counts.
-/
import Criteria.Number.Powers
import Criteria.Settings
import Criteria.Text.Digits

namespace Criteria.Settings

open Text

/-- Keys with the texts of what stands there, as far as it has a text. -/
abbrev Source := List (List Char × Option (List Char))

/-! ### Keys -/

/-- The lower case of a letter, for the letters whose lower case is ASCII. -/
def lower (c : Char) : Char := if c = '\u212A' then 'k' else c.toLower

def isKeyChar (c : Char) : Bool := c.isAlphanum || c = '-' || c = '_' || c = ' '

/-- An index in brackets, a whole number of 64 bits with white space around it, and what follows. -/
def takeIndex? (cs : List Char) : Option (List Char) :=
  let blank (c : Char) : Bool := c = ' ' || c = '\t'
  let cs := cs.dropWhile blank
  let sign := if cs.head? == some '-' then ['-'] else []
  let cs := cs.drop sign.length
  let digits := cs.takeWhile isDigit
  match (cs.drop digits.length).dropWhile blank with
  | ']' :: cs =>
    if (readInt (sign ++ digits)).any (fitsSigned 64) then some cs else none
  | _ => none

/-- Names after dots and indices in brackets, up to the end of a key. -/
def isSteps : (steps : Nat) → List Char → Bool
  | _, [] => true
  | 0, _ => false
  | s + 1, '.' :: cs => cs.head?.any isKeyChar && isSteps s (cs.dropWhile isKeyChar)
  | s + 1, '[' :: cs => (takeIndex? cs).any fun cs => isSteps s cs
  | _, _ => false

/-- What a key with a text says of settings: the text under the key, or, where the key leads into a
    setting, that the setting has no text. -/
def statement (key : List Char) (text : Option (List Char)) : List Char × Option (List Char) :=
  let key := key.map lower
  let rest := key.dropWhile isKeyChar
  if !rest.isEmpty && isSteps rest.length rest then (key.takeWhile isKeyChar, none) else (key, text)

/-! ### Settings of a source -/

/-- The last word on a setting: none at all, none with a text, or a text. -/
def Source.last? (s : Source) (name : String) : Option (Option (List Char)) :=
  (s.reverse.map fun e => statement e.1 e.2).lookup name.toList

/-- The text of a setting that may be absent; nothing, if what is there has no text. -/
def Source.text? (s : Source) (name : String) : Option (Option String) :=
  match s.last? name with
  | none => some none
  | some none => none
  | some (some cs) => some (some (String.ofList cs))

def Source.settings? (s : Source) : Option Settings := do
  ofTexts? {
    store := ← s.text? "backend"
    dialect := ← s.text? "dialect"
    timeZone := ← s.text? "time_zone"
    logLevel := ← s.text? "log_level" }

/-- The settings of a source, with a zone that can be read. -/
def Source.settings (s : Source) : Except SettingsError Settings :=
  match s.settings? with
  | some t => t.validated
  | none => .error .malformed

end Criteria.Settings
