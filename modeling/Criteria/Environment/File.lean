/-
  Criteria/Environment/File.lean
  ==============================
  **Files of variables.**  Each entry is `NAME=text`, with `export` in front or
  not.  A text may be quoted, in single quotes as it stands, in double quotes
  with escapes; outside single quotes `$NAME` and `${NAME}` stand for the text of
  a variable.  An entry goes on over line ends while a quote is open.  A file
  is read up to its first malformed entry, and sets only what is not set.
-/
import Criteria.Environment
import Criteria.Text.Blank
import Criteria.Text.Letters

namespace Criteria.Variables

open Text

/-! ### Entries -/

def linesOf : List Char → List (List Char)
  | [] => []
  | c :: cs =>
    if c = '\n' then [c] :: linesOf cs
    else match linesOf cs with
      | [] => [[c]]
      | l :: ls => (c :: l) :: ls

inductive Place where
  | outside
  /-- After white space, where a comment may start. -/
  | gap
  | escape
  | double
  | doubleEscape
  | single
  | singleEscape
  | comment
  deriving DecidableEq

def Place.step (c : Char) : Place → Place
  | .gap =>
    if c = '#' then .comment
    else if c = '\\' then .escape
    else if c = '"' then .double
    else if c = '\'' then .single
    else .outside
  | .outside =>
    if isBlank c ∧ c ≠ '\n' ∧ c ≠ '\r' then .gap
    else if c = '\\' then .escape
    else if c = '"' then .double
    else if c = '\'' then .single
    else .outside
  | .escape => .outside
  | .double => if c = '\\' then .doubleEscape else if c = '"' then .outside else .double
  | .doubleEscape => .double
  | .single => if c = '\\' then .singleEscape else if c = '\'' then .outside else .single
  | .singleEscape => .single
  | .comment => .comment

/-- What of a line belongs to its entry, all but a comment at its end, and the place after it. -/
def Place.run : Place → List Char → List Char × Place
  | p, [] => ([], p)
  | p, c :: cs =>
    let q := p.step c
    if q = .comment then ([], .comment)
    else
      let r := q.run cs
      (c :: r.1, r.2)

/-- The entries of lines, given the start of an entry and the place after it.  An entry that is not
    complete at the end is none; lines of a comment alone are empty entries. -/
def entriesFrom (start : List Char) (p : Place) : List (List Char) → List (Option (List Char))
  | [] => if p = .outside then [] else [none]
  | l :: ls =>
    if (dropBlanks (start ++ l)).head? == some '#' then some [] :: entriesFrom [] .outside ls
    else
      let r := p.run l
      if r.2 = .outside ∨ r.2 = .comment then some (start ++ r.1) :: entriesFrom [] .outside ls
      else entriesFrom (start ++ r.1) r.2 ls

def entries (cs : List Char) : List (Option (List Char)) := entriesFrom [] .outside (linesOf cs)

/-! ### Texts -/

/-- Where the characters of a text stand, and whether double quotes are open there. -/
inductive Mode where
  | bare (quoted : Bool)
  | single
  | escape (quoted : Bool)
  /-- In a name after a dollar sign, last to first. -/
  | name (quoted : Bool) (reversed : List Char)
  /-- In a name in braces, last to first. -/
  | braced (quoted : Bool) (reversed : List Char)
  /-- Past the text: only white space and a comment may follow. -/
  | finished
  | comment

def escaped? (c : Char) : Option Char :=
  if ['\\', '\'', '"', '$', ' '].contains c then some c
  else if c = 'n' then some '\n'
  else none

/-- One more character: what it adds to the text, and the place after it. -/
def Mode.step (vs : Variables) (c : Char) : Mode → Option (List Char × Mode)
  | .bare true =>
    if c = '$' then some ([], .name true [])
    else if c = '"' then some ([], .bare false)
    else if c = '\\' then some ([], .escape true)
    else some ([c], .bare true)
  | .bare false =>
    if c = '$' then some ([], .name false [])
    else if c = '\'' then some ([], .single)
    else if c = '"' then some ([], .bare true)
    else if c = '\\' then some ([], .escape false)
    else if c = ' ' ∨ c = '\t' then some ([], .finished)
    else some ([c], .bare false)
  | .single => if c = '\'' then some ([], .bare false) else some ([c], .single)
  | .escape quoted => (escaped? c).map fun d => ([d], .bare quoted)
  | .name quoted r =>
    if isAlphanumeric c then some ([], .name quoted (c :: r))
    else if c = '\x7b' ∧ r.isEmpty then some ([], .braced quoted [])
    else
      let text := vs.text r.reverse
      if c = '$' then some (text, .name quoted []) else some (text ++ [c], .bare quoted)
  | .braced quoted r =>
    if c = '\x7d' then some (vs.text r.reverse, .bare quoted)
    else some ([], .braced quoted (c :: r))
  | .finished =>
    if c = ' ' ∨ c = '\t' then some ([], .finished)
    else if c = '#' then some ([], .comment)
    else none
  | .comment => some ([], .comment)

/-- What a text ends with: the variable of a name that is still open; nothing is left quoted. -/
def Mode.close (vs : Variables) : Mode → Option (List Char)
  | .bare true | .escape true | .name true _ | .braced _ _ | .single => none
  | .name false r => some (vs.text r.reverse)
  | _ => some []

/-- The text that characters write from a place on. -/
def Mode.run (vs : Variables) : Mode → List Char → Option (List Char)
  | m, [] => m.close vs
  | m, c :: cs => (m.step vs c).bind fun r => (r.2.run vs cs).map (r.1 ++ ·)

/-! ### Reading -/

def isNameStart (c : Char) : Bool := c.isAlpha || c = '_'

def isNameChar (c : Char) : Bool := c.isAlphanum || c = '_' || c = '.'

def takeName? (cs : List Char) : Option (List Char × List Char) :=
  if cs.head?.any isNameStart then
    some (cs.takeWhile isNameChar, dropBlanks (cs.dropWhile isNameChar))
  else none

/-- The name of an entry, after `export` or not, and what follows the equals sign. -/
def takeAssigned? (cs : List Char) : Option (List Char × List Char) := do
  let (name, cs) ← takeName? cs
  match cs with
  | '=' :: cs => return (name, dropBlanks cs)
  | cs =>
    let (name, cs) ← if name = "export".toList then takeName? cs else none
    match cs with
    | '=' :: cs => return (name, dropBlanks cs)
    | _ => none

def readEntry? (vs : Variables) (entry : List Char) : Option Variables :=
  let cs := trim entry
  if cs.isEmpty || cs.head? == some '#' then some vs
  else do
    let (name, cs) ← takeAssigned? cs
    if cs.isEmpty || cs.head? == some '#' then return vs.supply name []
    else return vs.supply name (← (Mode.bare false).run vs cs)

/-- The variables with those of entries, up to the first that is malformed. -/
def readEntries (vs : Variables) : List (Option (List Char)) → Variables
  | [] | none :: _ => vs
  | some e :: es =>
    match vs.readEntry? e with
    | some vs => vs.readEntries es
    | none => vs

def withFile (vs : Variables) (cs : List Char) : Variables := vs.readEntries (entries (dropMark cs))

end Criteria.Variables
