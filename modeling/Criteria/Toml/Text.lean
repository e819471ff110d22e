/-
  Criteria/Toml/Text.lean
  =======================
  **White space, strings and keys of TOML.**  Every function takes something off
  the front of a text and gives back what follows.
-/
import Criteria.Text.Bases
import Criteria.Toml

namespace Criteria.Toml

open Text

/-! ### White space -/

def isGap (c : Char) : Bool := c = ' ' || c = '\t'

/-- The characters that may stand in a comment or in a string, quotes and backslashes aside. -/
def isVisible (c : Char) : Bool := c = '\t' || (0x20 ≤ c.toNat && c.toNat ≠ 0x7F)

def dropGap (cs : List Char) : List Char := cs.dropWhile isGap

def takeLineEnd? : List Char → Option (List Char)
  | '\n' :: cs => some cs
  | '\r' :: '\n' :: cs => some cs
  | _ => none

def dropComment : List Char → List Char
  | '#' :: cs => cs.dropWhile isVisible
  | cs => cs

/-- The text after what may end a line: white space, a comment, and the line end or the end of the
    text. -/
def takeLineRest? (cs : List Char) : Option (List Char) :=
  match dropComment (dropGap cs) with
  | [] => some []
  | cs => takeLineEnd? cs

def dropLines : (steps : Nat) → List Char → List Char
  | 0, cs => cs
  | s + 1, cs =>
    let r := dropComment (dropGap cs)
    match takeLineEnd? r with
    | some r => dropLines s r
    | none => r

/-! ### Strings -/

def escapes : List (Char × Char) :=
  [('b', '\x08'), ('t', '\t'), ('n', '\n'), ('f', '\x0c'), ('r', '\r'), ('"', '"'), ('\\', '\\')]

def takeEscape? : List Char → Option (Char × List Char)
  | [] => none
  | c :: cs =>
    match escapes.lookup c with
    | some d => some (d, cs)
    | none =>
      if c = 'u' then (readCodePoint 4 cs).map fun d => (d, cs.drop 4)
      else if c = 'U' then (readCodePoint 8 cs).map fun d => (d, cs.drop 8)
      else none

def takeLineString? (quote : Char) : (steps : Nat) → (reversed : List Char) → List Char →
    Option (List Char × List Char)
  | 0, _, _ => none
  | _ + 1, _, [] => none
  | s + 1, r, c :: cs =>
    if c = quote then some (r.reverse, cs)
    else if quote = '"' ∧ c = '\\' then
      (takeEscape? cs).bind fun (d, cs) => takeLineString? quote s (d :: r) cs
    else if isVisible c then takeLineString? quote s (c :: r) cs
    else none

def dropBreaks : (steps : Nat) → List Char → List Char
  | 0, cs => cs
  | s + 1, cs =>
    let r := dropGap cs
    match takeLineEnd? r with
    | some r => dropBreaks s r
    | none => r

def takeJoin? (cs : List Char) : Option (List Char) :=
  (takeLineEnd? (dropGap cs)).map fun r => dropBreaks (r.length + 1) r

/-- A string of several lines after its first quotes.  Of the quotes at its end, up to two belong to
    the string. -/
def takeLongString? (quote : Char) : (steps : Nat) → (reversed : List Char) → List Char →
    Option (List Char × List Char)
  | 0, _, _ => none
  | _ + 1, _, [] => none
  | s + 1, r, c :: cs =>
    if c = quote then
      let quotes := (c :: cs).takeWhile (· = quote)
      let n := quotes.length
      let rest := (c :: cs).drop n
      if n < 3 then takeLongString? quote s (quotes ++ r) rest
      else if n ≤ 5 then some ((quotes.drop 3 ++ r).reverse, rest)
      else none
    else match takeLineEnd? (c :: cs) with
      | some rest => takeLongString? quote s ('\n' :: r) rest
      | none =>
        if quote = '"' ∧ c = '\\' then
          match takeJoin? cs with
          | some rest => takeLongString? quote s r rest
          | none => (takeEscape? cs).bind fun (d, rest) => takeLongString? quote s (d :: r) rest
        else if isVisible c then takeLongString? quote s (c :: r) cs
        else none

/-- A string, of one line or of several.  A line end right after the first quotes is no part of
    it. -/
def takeString? (quote : Char) (cs : List Char) : Option (List Char × List Char) :=
  if [quote, quote, quote].isPrefixOf cs then
    let body := cs.drop 3
    takeLongString? quote (cs.length + 1) [] ((takeLineEnd? body).getD body)
  else takeLineString? quote (cs.length + 1) [] (cs.drop 1)

/-! ### Keys -/

def isBareKey (c : Char) : Bool := c.isAlphanum || c = '-' || c = '_'

/-- A key without dots: bare, or a string of one line. -/
def takeSimpleKey? (cs : List Char) : Option (List Char × List Char) :=
  match cs with
  | [] => none
  | c :: r =>
    if c = '"' ∨ c = '\'' then takeLineString? c (cs.length + 1) [] r
    else
      let k := cs.takeWhile isBareKey
      if k.isEmpty then none else some (k, cs.dropWhile isBareKey)

def takeParts? : (steps : Nat) → List Char → Option (Path × List Char)
  | 0, _ => none
  | s + 1, cs =>
    (takeSimpleKey? (dropGap cs)).bind fun (k, cs) =>
      match dropGap cs with
      | '.' :: cs => (takeParts? s cs).map fun (p, cs) => ({ p with above := k :: p.above }, cs)
      | cs => some ({ last := k }, cs)

def mostParts : Nat := 79

def takeKey? (cs : List Char) : Option (Path × List Char) :=
  (takeParts? (cs.length + 1) cs).filter fun r => r.1.keys.length ≤ mostParts

end Criteria.Toml
