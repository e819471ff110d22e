/-
  Criteria/Yaml/Scalar.lean
  =========================
  **Parts of scalars.**  What white space between two parts of a scalar is read
  as, what an escape writes, and what the header of a block scalar says.
-/
import Criteria.Text.Bases
import Criteria.Yaml.Place

namespace Criteria.Yaml

/-! ### White space inside a scalar -/

/-- White space between two parts of a scalar: the blanks before the first line break, that line
    break, and the further ones. -/
structure Gap where
  blanks : List Char := []
  first : List Char := []
  further : List Char := []
  broken : Bool := false

/-- What a gap is read as.  A line feed alone is a blank; with further ones it counts for
    nothing. -/
def Gap.folded (g : Gap) : List Char :=
  if g.broken then
    if g.first = ['\n'] then (if g.further.isEmpty then [' '] else g.further)
    else g.first ++ g.further
  else g.blanks

/-! ### Quoted scalars -/

def escapes : List (Char × Char) :=
  [('0', '\x00'), ('a', '\x07'), ('b', '\x08'), ('t', '\t'), ('\t', '\t'), ('n', '\n'),
   ('v', '\x0b'), ('f', '\x0c'), ('r', '\r'), ('e', '\x1b'), (' ', ' '), ('"', '"'), ('/', '/'),
   ('\\', '\\'), ('N', '\u0085'), ('_', '\u00a0'), ('L', '\u2028'), ('P', '\u2029')]

def escapeDigits? (c : Char) : Option Nat :=
  if c = 'x' then some 2 else if c = 'u' then some 4 else if c = 'U' then some 8 else none

def takeEscape : List Char → Option (Char × Nat)
  | [] => none
  | c :: cs =>
    match escapes.lookup c with
    | some d => some (d, 1)
    | none => do
      let n ← escapeDigits? c
      return (← Text.readCodePoint n cs, n + 1)

inductive Stop where
  | quote
  | space
  /-- A backslash before a line break. -/
  | joined

def takeQuotedRun (isBreak : Char → Bool) (double : Bool) : (steps : Nat) →
    (reversed : List Char) → Place → Option (List Char × Place × Stop)
  | 0, _, _ => none
  | s + 1, r, p =>
    match p.rest with
    | [] => none
    | c :: cs =>
      if isBreak c || isSpaceOrTab c then some (r, p, .space)
      else if !double && c = '\'' && cs.head? == some '\'' then
        takeQuotedRun isBreak double s ('\'' :: r) (p.skip 2)
      else if c = (if double then '"' else '\'') then some (r, p.skip 1, .quote)
      else if double && c = '\\' then
        if cs.head?.any isBreak then some (r, p.skip 1, .joined)
        else (takeEscape cs).bind fun (d, n) =>
          takeQuotedRun isBreak double s (d :: r) (p.skip (n + 1))
      else takeQuotedRun isBreak double s (c :: r) (p.skip 1)

/-! ### Headers of block scalars -/

/-- What happens to the line breaks at the end of a block scalar. -/
inductive Chomp where
  | strip
  | clip
  | keep
  deriving DecidableEq

def chompOf? (c : Char) : Option Chomp :=
  if c = '-' then some .strip else if c = '+' then some .keep else none

/-- A digit of indentation; zero is none. -/
def indentOf? (c : Char) : Option Nat :=
  if '1' ≤ c ∧ c ≤ '9' then some (c.toNat - '0'.toNat) else none

/-- The header of a block scalar: what happens to its last line breaks, the indentation it
    declares, and how many characters say so. -/
def blockHeader (cs : List Char) : Chomp × Option Nat × Nat :=
  match cs with
  | [] => (.clip, none, 0)
  | c :: r =>
    let d := r.head?
    match chompOf? c, indentOf? c with
    | some h, _ =>
      match d.bind indentOf? with
      | some i => (h, some i, 2)
      | none => (h, none, 1)
    | _, some i =>
      match d.bind chompOf? with
      | some h => (h, some i, 2)
      | none => (.clip, some i, 1)
    | _, _ => (.clip, none, 0)

end Criteria.Yaml
