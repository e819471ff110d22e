/-
  Criteria/Regex/Reading.lean
  ===========================
  **Regular expressions in text.**  An expression is read character by character
  over a stack of the groups that are open.  The expressions that are read here
  come from between braces, so that none of theirs is ever closed: a count of
  repetitions, or a number in braces, is never complete.
-/
import Criteria.Regex
import Criteria.Text.Bases
import Criteria.Text.Blank
import Criteria.Text.Letters

namespace Criteria.Regex

open Text

/-! ### White space -/

/-- The text after white space and comments, where these are no part of an expression. -/
def dropSpace : (steps : Nat) → List Char → List Char
  | 0, cs => cs
  | _, [] => []
  | s + 1, c :: cs =>
    if isBlank c then dropSpace s cs
    else if c = '#' then dropSpace s ((cs.dropWhile (· ≠ '\n')).drop 1)
    else c :: cs

def unspaced (spaced : Bool) (cs : List Char) : List Char :=
  if spaced then dropSpace cs.length cs else cs

/-- The text after white space, if any of it is left. -/
def goOn? (spaced : Bool) (cs : List Char) : Option (List Char) :=
  let cs := unspaced spaced cs
  if cs.isEmpty then none else some cs

/-- The first character that is no white space and starts no comment. -/
def firstMark? (comment : Bool) : List Char → Option Char
  | [] => none
  | c :: cs =>
    if isBlank c then firstMark? comment cs
    else if c = '#' ∧ !comment then firstMark? true cs
    else some c

def ahead? (spaced : Bool) (cs : List Char) : Option Char :=
  if spaced then firstMark? false cs <|> cs.head? else cs.head?

/-! ### Escapes -/

def takeHex? (spaced : Bool) : (digits : Nat) → (value : Nat) → List Char →
    Option (Nat × List Char)
  | 0, value, cs => some (value, cs)
  | n + 1, value, cs =>
    match cs with
    | [] => none
    | c :: cs => (hexValue? c).bind fun d => takeHex? spaced n (16 * value + d) (unspaced spaced cs)

def takeNumbered? (spaced : Bool) (digits : Nat) (cs : List Char) : Option (Atom × List Char) :=
  (takeHex? spaced digits 0 (unspaced spaced cs)).bind fun (n, cs) =>
    (character? n).map fun c => (.literal c (digits = 2), cs)

def controls : List (Char × Char) :=
  [('a', '\x07'), ('f', '\x0c'), ('t', '\t'), ('n', '\n'), ('r', '\r'), ('v', '\x0b')]

def escaped? (c : Char) : Option Atom :=
  if "dsw".toList.contains c then some (.category false)
  else if "DSW".toList.contains c then some (.category true)
  else if "bB<>".toList.contains c then some .boundary
  else if "Az".toList.contains c then some .edge
  else if isAscii c && !c.isAlphanum then some (.literal c false)
  else (controls.lookup c).map fun d => .literal d false

/-- The escape after a backslash, and what follows.  Properties of characters are never known. -/
def takeEscape? (spaced : Bool) : List Char → Option (Atom × List Char)
  | [] => none
  | c :: cs =>
    if c = 'x' then takeNumbered? spaced 2 cs
    else if c = 'u' then takeNumbered? spaced 4 cs
    else if c = 'U' then takeNumbered? spaced 8 cs
    else (escaped? c).map fun a => (a, cs)

/-! ### Sets of characters -/

def classNames : List String :=
  ["alnum", "alpha", "ascii", "blank", "cntrl", "digit", "graph", "lower", "print", "punct",
   "space", "upper", "word", "xdigit"]

def takeNamed? : List Char → Option (CharSet × List Char)
  | ':' :: cs =>
    let negated := cs.head? == some '^'
    let cs := if negated then cs.drop 1 else cs
    let name := cs.takeWhile (· ≠ ':')
    if classNames.any (fun n => n.toList == name)
        && ":]".toList.isPrefixOf (cs.drop name.length) then
      some (.named negated, cs.drop (name.length + 2))
    else none
  | _ => none

def takeMember? (spaced : Bool) : List Char → Option (Atom × List Char)
  | [] => none
  | '\\' :: cs => takeEscape? spaced cs
  | c :: cs => some (.literal c false, cs)

def CharSet.ofAtom? : Atom → Option CharSet
  | .literal c _ => some (.literal c)
  | .category negated => some (.category negated)
  | _ => none

/-- A member of a set or a range of members, and what follows.  A hyphen before another one or
    before the end of the set makes no range. -/
def takeRange? (spaced : Bool) (cs : List Char) : Option (CharSet × List Char) := do
  let (a, cs) ← takeMember? spaced cs
  let cs ← goOn? spaced cs
  match cs with
  | '-' :: rest =>
    if ahead? spaced rest == some ']' || ahead? spaced rest == some '-' then
      return (← CharSet.ofAtom? a, cs)
    else
      let (b, cs) ← takeMember? spaced (← goOn? spaced rest)
      match a, b with
      | .literal first _, .literal last _ =>
        if first ≤ last then return (.range first last, cs) else none
      | _, _ => none
  | _ => return (← CharSet.ofAtom? a, cs)

def takeHyphens? (spaced : Bool) : (steps : Nat) → (reversed : List CharSet) → List Char →
    Option (List CharSet × List Char)
  | 0, _, _ => none
  | s + 1, r, cs =>
    match cs with
    | '-' :: cs => (goOn? spaced cs).bind fun cs => takeHyphens? spaced s (.literal '-' :: r) cs
    | cs => some (r, cs)

/-- The members that a set starts with, hyphens or else a closing bracket, last to first, and what
    follows. -/
def takeFirst? (spaced : Bool) (cs : List Char) : Option (List CharSet × List Char) :=
  (takeHyphens? spaced (cs.length + 1) [] cs).bind fun (r, cs) =>
    if r.isEmpty && cs.head? == some ']' then
      (goOn? spaced (cs.drop 1)).map fun cs => ([.literal ']'], cs)
    else some (r, cs)

/-- The opening of a set in brackets: whether it is negated, its first members, and what follows. -/
def takeOpening? (spaced : Bool) (cs : List Char) : Option (Bool × List CharSet × List Char) :=
  (goOn? spaced cs).bind fun cs =>
    let negated := cs.head? == some '^'
    let cs := if negated then goOn? spaced (cs.drop 1) else some cs
    (cs.bind (takeFirst? spaced)).map fun (r, cs) => (negated, r, cs)

def CharSet.ofMembers : List CharSet → CharSet
  | [] => .none
  | [s] => s
  | ss => .union ss.reverse

def CharSet.joined (left : Option CharSet) (members : List CharSet) : CharSet :=
  match left with
  | Option.none => ofMembers members
  | Option.some l => .combined l (ofMembers members)

def isOperator : List Char → Bool
  | c :: d :: _ => c = d && (c = '&' || c = '-' || c = '~')
  | _ => false

/-- A set in brackets, from the place after its members so far, and what follows it. -/
def takeSet? (spaced : Bool) : (steps : Nat) → (left : Option CharSet) →
    (reversed : List CharSet) → List Char → Option (CharSet × List Char)
  | 0, _, _, _ => none
  | s + 1, left, r, cs =>
    match unspaced spaced cs with
    | [] => none
    | ']' :: cs => some (CharSet.joined left r, cs)
    | '[' :: cs =>
      match takeNamed? cs with
      | some (set, cs) => takeSet? spaced s left (set :: r) cs
      | none =>
        (takeOpening? spaced cs).bind fun (negated, first, cs) =>
          (takeSet? spaced s none first cs).bind fun (set, cs) =>
            takeSet? spaced s left (.bracket negated set :: r) cs
    | cs =>
      if isOperator cs then takeSet? spaced s (some (CharSet.joined left r)) [] (cs.drop 2)
      else (takeRange? spaced cs).bind fun (set, cs) => takeSet? spaced s left (set :: r) cs

/-! ### Groups -/

/-- The change that letters say.  Each stands once, and letters follow the hyphen. -/
def Change.read? (letters : List Char) : Option Change :=
  let on := letters.takeWhile (· ≠ '-')
  let rest := letters.dropWhile (· ≠ '-')
  let off := rest.drop 1
  let flags := on ++ off
  if flags.all ("imsUuRx".toList.contains ·) && flags.eraseDups.length = flags.length
      && (rest.isEmpty || !off.isEmpty) then some { on, off }
  else none

def isGroupName : List Char → Bool
  | [] => false
  | c :: cs =>
    (c = '_' || isAlphabetic c) && cs.all fun c => isAlphanumeric c || "_.[]".toList.contains c

inductive Opening where
  /-- Nothing is opened: the flags of the group around change. -/
  | change (c : Change)
  | group (c : Change)
  | named (name : List Char)

def takeName? (cs : List Char) : Option (Opening × List Char) :=
  let name := cs.takeWhile (· ≠ '>')
  if isGroupName name && (cs.drop name.length).head? == some '>' then
    some (.named name, cs.drop (name.length + 1))
  else none

def takeFlags? (cs : List Char) : Option (Opening × List Char) :=
  let letters := cs.takeWhile fun c => c ≠ ':' ∧ c ≠ ')'
  (Change.read? letters).bind fun c =>
    match cs.drop letters.length with
    | ':' :: cs => some (.group c, cs)
    | ')' :: cs => if letters.isEmpty then none else some (.change c, cs)
    | _ => none

/-- The opening of a group after its parenthesis, and what follows.  No group looks ahead or
    back. -/
def takeGroup? : List Char → Option (Opening × List Char)
  | '?' :: 'P' :: '<' :: cs => takeName? cs
  | '?' :: '<' :: cs => takeName? cs
  | '?' :: cs => takeFlags? cs
  | cs => some (.group {}, cs)

/-! ### Expressions -/

/-- What a character stands for that opens or closes nothing. -/
def Atom.ofChar (c : Char) : Atom :=
  if c = '.' then .dot else if c = '^' ∨ c = '$' then .edge else .literal c false

def ofParts : List Regex → Regex
  | [] => .empty
  | [r] => r
  | rs => .concat rs.reverse

/-- The expression of branches and of the parts of a further one, given last to first. -/
def ofBranches (branches parts : List Regex) : Regex :=
  if branches.isEmpty then ofParts parts else .alternation (ofParts parts :: branches).reverse

/-- A group that is open: its flags, and what stands before it in the one around it. -/
structure Frame where
  change : Change
  spaced : Bool
  branches : List Regex
  parts : List Regex

/-- What has been read of an expression.  Branches and parts are kept last to first. -/
structure Draft where
  rest : List Char
  spaced : Bool := false
  names : List (List Char) := []
  branches : List Regex := []
  parts : List Regex := []
  outer : List Frame := []

namespace Draft

def push (d : Draft) (r : Regex) (rest : List Char) : Draft :=
  { d with parts := r :: d.parts, rest }

def enter (d : Draft) (c : Change) (rest : List Char) : Draft :=
  { d with
    rest
    spaced := (c.state? 'x').getD d.spaced
    branches := []
    parts := []
    outer := ⟨c, d.spaced, d.branches, d.parts⟩ :: d.outer }

def «open» (d : Draft) (cs : List Char) : Option Draft :=
  (takeGroup? (unspaced d.spaced cs)).bind fun
    | (.change c, cs) => some { d.push (.change c) cs with spaced := (c.state? 'x').getD d.spaced }
    | (.group c, cs) => some (d.enter c cs)
    | (.named name, cs) =>
      if d.names.contains name then none else some { d.enter {} cs with names := name :: d.names }

def close (d : Draft) (cs : List Char) : Option Draft :=
  match d.outer with
  | [] => none
  | f :: outer =>
    some { d with
      rest := cs
      spaced := f.spaced
      branches := f.branches
      parts := .group f.change (ofBranches d.branches d.parts) :: f.parts
      outer }

/-- A mark of repetition, perhaps with a second one for as few times as possible. -/
def repeatLast (d : Draft) (cs : List Char) : Option Draft :=
  match d.parts with
  | [] | .empty :: _ | .change _ :: _ => none
  | r :: parts =>
    let rest := if cs.head? == some '?' then cs.drop 1 else cs
    some { d with parts := .repeated r :: parts, rest }

def step (d : Draft) (c : Char) (cs : List Char) : Option Draft :=
  if c = '(' then d.open cs
  else if c = ')' then d.close cs
  else if c = '|' then
    some { d with branches := ofParts d.parts :: d.branches, parts := [], rest := cs }
  else if c = '[' then
    (takeOpening? d.spaced cs).bind fun (negated, first, cs) =>
      (takeSet? d.spaced (cs.length + 1) none first cs).map fun (set, cs) =>
        d.push (.bracket negated set) cs
  else if c = '?' ∨ c = '*' ∨ c = '+' then d.repeatLast cs
  else if c = '\x7b' then none
  else if c = '\\' then (takeEscape? d.spaced cs).map fun (a, cs) => d.push (.atom a) cs
  else some (d.push (.atom (Atom.ofChar c)) cs)

/-- The expression of a text, read to its end.  Each step uses up at least one character. -/
def run : (steps : Nat) → Draft → Option Regex
  | 0, _ => none
  | s + 1, d =>
    match unspaced d.spaced d.rest with
    | [] => if d.outer.isEmpty then some (ofBranches d.branches d.parts) else none
    | c :: cs => (d.step c cs).bind (run s)

end Draft

def read? (cs : List Char) : Option Regex := Draft.run (cs.length + 1) { rest := cs }

def isWritten (cs : List Char) : Bool := (read? cs).any isSound

end Criteria.Regex
