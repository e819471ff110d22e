/-
  Criteria/Yaml/V11/Schema.lean
  =============================
  **What a plain scalar means.**  The core schema: nulls and booleans by name,
  whole numbers to base ten, sixteen, eight and two, decimals, infinities and
  not-a-number; whatever is none of these is text, a whole number with a zero in
  front included.  Whole numbers of more than 64 bits are numbers, but too wide
  to be read.
-/
import Criteria.Number.Reading
import Criteria.Text.Bases
import Criteria.Yaml.V11.Node

namespace Criteria.Yaml.V11

open Text

inductive Meaning where
  | null
  | bool (b : Bool)
  | int (i : Int)
  /-- A whole number that is too wide to be read. -/
  | wide
  | float (x : Binary64)
  | text (cs : List Char)

def isNull (cs : List Char) : Bool :=
  ["null", "Null", "NULL", "~"].any fun n => n.toList == cs

def readBool (cs : List Char) : Option Bool :=
  if ["true", "True", "TRUE"].any (fun n => n.toList == cs) then some true
  else if ["false", "False", "FALSE"].any (fun n => n.toList == cs) then some false
  else none

def unsigned (cs : List Char) : List Char :=
  match cs with
  | '+' :: r | '-' :: r => r
  | r => r

/-- Digits alone, more than one, the first of them zero. -/
def hasSpareZero (cs : List Char) : Bool :=
  match unsigned cs with
  | '0' :: d :: ds => (d :: ds).all isDigit
  | _ => false

def readMagnitude (cs : List Char) : Option Nat :=
  match cs with
  | '0' :: 'x' :: r => readBase 16 r
  | '0' :: 'o' :: r => readBase 8 r
  | '0' :: 'b' :: r => readBase 2 r
  | r => readNat r

def readWhole (cs : List Char) : Option Int :=
  if hasSpareZero cs then none
  else match cs with
    | '+' :: r => (readMagnitude r).map Int.ofNat
    | '-' :: r => (readMagnitude r).map fun n => -(n : Int)
    | r => (readMagnitude r).map Int.ofNat

/-- A whole number that fits into 64 bits, signed or unsigned, or is wide, up to 128 bits. -/
def intMeaning? (cs : List Char) : Option Meaning :=
  (readWhole cs).bind fun i =>
    if fitsSigned 64 i || fitsUnsigned 64 i then some (.int i)
    else if fitsSigned 128 i || fitsUnsigned 128 i then some .wide
    else none

def isName (names : List String) (cs : List Char) : Bool := names.any fun n => n.toList == cs

def infinityNames : List String := [".inf", ".Inf", ".INF"]

def nanNames : List String := [".nan", ".NaN", ".NAN"]

def readFinite (cs : List Char) : Option Binary64 :=
  (Binary64.read? cs).filter Binary64.isFinite

def readFloat (cs : List Char) : Option Binary64 :=
  if isName nanNames cs then some .nan
  else match cs with
    | '+' :: '+' :: _ | '+' :: '-' :: _ => none
    | '+' :: r => if isName infinityNames r then some (.infinite false) else readFinite r
    | '-' :: r => if isName infinityNames r then some (.infinite true) else readFinite cs
    | _ => if isName infinityNames cs then some (.infinite false) else readFinite cs

def plainMeaning (cs : List Char) : Meaning :=
  if cs.isEmpty || isNull cs then .null
  else match readBool cs with
    | some b => .bool b
    | none =>
      match intMeaning? cs with
      | some m => m
      | none =>
        match if hasSpareZero cs then none else readFloat cs with
        | some x => .float x
        | none => .text cs

/-! ### Tags -/

def schemaTag (name : String) : Tag := Tag.ofChars ("tag:yaml.org,2002:" ++ name).toList

/-- The name that a document's own tag gives: what follows its exclamation mark, or the mark alone.
    Octets that are no text give no name. -/
def ownName? : Option Tag → Option String
  | some (0x21 :: t) => Tag.text? (if t.isEmpty then [0x21] else t)
  | _ => none

def scalarMeaning? (tag : Option Tag) (plain : Bool) (cs : List Char) : Option Meaning :=
  let untagged : Meaning := if plain then plainMeaning cs else .text cs
  match tag with
  | none => some untagged
  | some t =>
    if (ownName? tag).isSome then none
    else if t = schemaTag "bool" then (readBool cs).map .bool
    else if t = schemaTag "int" then intMeaning? cs
    else if t = schemaTag "float" then (readFloat cs).map .float
    else if t = schemaTag "null" then if isNull cs then some .null else none
    else if t.head? == some 0x21 then some untagged
    else some (.text cs)

/-! ### Documents -/

def Node.isEmpty : Node → Bool
  | .scalar _ true [] => true
  | _ => false

namespace Document

def text? (d : Document) (n : Node) : Option (List Char) :=
  match d.follow n with
  | .scalar _ _ cs => some cs
  | _ => none

/-- The items of a sequence; nothing at all has none. -/
def items? (d : Document) (n : Node) : Option (List Node) :=
  match d.follow n with
  | .sequence _ items => some items
  | n => if n.isEmpty then some [] else none

/-- The pairs of a mapping whose keys are texts; nothing at all has none. -/
def members? (d : Document) (n : Node) : Option (List (List Char × Node)) :=
  match d.follow n with
  | .mapping _ pairs => pairs.mapM fun p => (d.text? p.1).map fun k => (k, p.2)
  | n => if n.isEmpty then some [] else none

end Document

/-- What a mapping holds under a key: nothing, one node, or several, which is an error. -/
def member? (key : String) (ms : List (List Char × Node)) : Option (Option Node) :=
  match ms.filter fun m => m.1 == key.toList with
  | [] => some none
  | [m] => some (some m.2)
  | _ => none

end Criteria.Yaml.V11
