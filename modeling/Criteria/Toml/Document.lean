/-
  Criteria/Toml/Document.lean
  ===========================
  **TOML documents.**  A document is read line by line.  The keys of a line go
  into the table of the last header; before the first header, into the document
  itself.
-/
import Criteria.Toml.Number
import Criteria.Toml.Text

namespace Criteria.Toml

/-! ### Values -/

def deepest : Nat := 79

/-- A value that starts with a digit, a sign, or the first letter of a name. -/
def takeWord? (cs : List Char) : Option (Toml × List Char) :=
  if "true".toList.isPrefixOf cs then some (.bool true, cs.drop 4)
  else if "false".toList.isPrefixOf cs then some (.bool false, cs.drop 5)
  else takeMoment? cs <|> takeFloat? cs <|> takeNamed? cs <|> takeInt? cs

mutual

def takeValue? : (steps : Nat) → (depth : Nat) → List Char → Option (Toml × List Char)
  | 0, _, _ => none
  | _ + 1, _, [] => none
  | s + 1, depth, c :: cs =>
    if c = '"' ∨ c = '\'' then
      (takeString? c (c :: cs)).map fun (text, cs) => (.string text, cs)
    else if c = '[' then
      if depth < deepest then takeItems? s (depth + 1) [] cs else none
    else if c = '\x7b' then
      if depth < deepest then
        match dropGap cs with
        | '\x7d' :: cs => some (.table .braces [], cs)
        | cs => takePairs? s (depth + 1) [] cs
      else none
    else takeWord? (c :: cs)

def takeItems? : (steps : Nat) → (depth : Nat) → (reversed : List Toml) → List Char →
    Option (Toml × List Char)
  | 0, _, _, _ => none
  | s + 1, depth, items, cs =>
    match dropLines (cs.length + 1) cs with
    | ']' :: cs => some (.array items.reverse, cs)
    | cs => (takeValue? s depth cs).bind fun (v, cs) =>
      match dropLines (cs.length + 1) cs with
      | ',' :: cs => takeItems? s depth (v :: items) cs
      | ']' :: cs => some (.array (v :: items).reverse, cs)
      | _ => none

def takePairs? : (steps : Nat) → (depth : Nat) → Entries → List Char → Option (Toml × List Char)
  | 0, _, _, _ => none
  | s + 1, depth, es, cs =>
    (takeKey? cs).bind fun (p, cs) =>
      match cs with
      | '=' :: cs => (takeValue? s depth (dropGap cs)).bind fun (v, cs) =>
        (es.insert p v).bind fun es =>
          match dropGap cs with
          | ',' :: cs => takePairs? s depth es cs
          | '\x7d' :: cs => some (.table .braces es, cs)
          | _ => none
      | _ => none

end

/-! ### Lines -/

/-- A document so far: its entries, and the keys of the last header. -/
structure Draft where
  entries : Entries := []
  header : List (List Char) := []

/-- A header, with its brackets given as what opens it and what closes it. -/
def Draft.takeHeader? (d : Draft) (opening closing : List Char)
    (change : Path → Entries → Option Entries) (cs : List Char) : Option (Draft × List Char) :=
  (takeKey? (cs.drop opening.length)).bind fun (p, cs) =>
    if closing.isPrefixOf cs then
      (change p d.entries).map fun es =>
        ({ entries := es, header := p.keys }, cs.drop closing.length)
    else none

def Draft.takePair? (d : Draft) (cs : List Char) : Option (Draft × List Char) :=
  (takeKey? cs).bind fun (p, cs) =>
    match cs with
    | '=' :: cs => (takeValue? (2 * cs.length + 2) 0 (dropGap cs)).bind fun (v, cs) =>
      (d.entries.inside d.header fun es => es.insert p v).map
        fun es => ({ d with entries := es }, cs)
    | _ => none

/-- What stands on a line, white space before it aside. -/
def Draft.takeLine? (d : Draft) (cs : List Char) : Option (Draft × List Char) :=
  match cs with
  | '[' :: '[' :: _ => d.takeHeader? "[[".toList "]]".toList Entries.openItem cs
  | '[' :: _ => d.takeHeader? ['['] [']'] Entries.openTable cs
  | _ => d.takePair? cs

def Draft.run (d : Draft) : (steps : Nat) → List Char → Option Draft
  | 0, _ => none
  | s + 1, cs =>
    match dropLines (cs.length + 1) cs with
    | [] => some d
    | cs => (d.takeLine? cs).bind fun (d, cs) => (takeLineRest? cs).bind fun cs => d.run s cs

def Entries.read? (cs : List Char) : Option Entries :=
  ((Draft.mk [] []).run (cs.length + 1) cs).map Draft.entries

end Criteria.Toml
