/-
  Criteria/Json/Document.lean
  ===========================
  **The tree of a JSON text.**  A document is what a text says before it is
  taken as a value: numbers as they are written, members in order and with
  repeated keys, strings that may denote no text.  The tree is built from the
  tokens one by one over a stack of the brackets that are open.

  A document has a value when its strings denote texts, its numbers are in
  range and its brackets are not too deep; of members with the same key the
  last one counts.
-/
import Criteria.Json.Numeral
import Criteria.Json.Token

namespace Criteria.Json

open Text

/-! ### Documents -/

inductive Doc where
  | null
  | bool (b : Bool)
  | number (n : Numeral)
  | string (s : Option String)
  | array (items : List Doc)
  | object (members : List (Option String × Doc))

def Doc.ofWord? (w : List Char) : Option Doc :=
  if w = "null".toList then some .null
  else if w = "true".toList then some (.bool true)
  else if w = "false".toList then some (.bool false)
  else (readNumeral w).map .number

/-- A bracket that is open, with what it holds so far, last to first. -/
inductive Frame where
  | array (reversed : List Doc)
  | object (reversed : List (Option String × Doc)) (key : Option String)

/-- What may come next, inside the brackets that are open. -/
inductive State where
  /-- A value. -/
  | value (open_ : List Frame)
  /-- The first item of an array, or its end. -/
  | item (open_ : List Frame)
  /-- The first key of an object, or its end. -/
  | member (open_ : List Frame)
  /-- A further key of an object. -/
  | key (reversed : List (Option String × Doc)) (open_ : List Frame)
  /-- The colon after a key. -/
  | colon (reversed : List (Option String × Doc)) (k : Option String) (open_ : List Frame)
  /-- What follows a complete value. -/
  | after (open_ : List Frame) (d : Doc)

def startValue (fs : List Frame) : Token → Option State
  | .arrayStart => some (.item fs)
  | .objectStart => some (.member fs)
  | .string s => some (.after fs (.string s))
  | .word w => (Doc.ofWord? w).map (.after fs)
  | _ => none

def State.step (t : Token) : State → Option State
  | .value fs => startValue fs t
  | .item fs =>
    if t = .arrayEnd then some (.after fs (.array [])) else startValue (.array [] :: fs) t
  | .member fs =>
    match t with
    | .objectEnd => some (.after fs (.object []))
    | .string k => some (.colon [] k fs)
    | _ => none
  | .key ms fs =>
    match t with
    | .string k => some (.colon ms k fs)
    | _ => none
  | .colon ms k fs => if t = .colon then some (.value (.object ms k :: fs)) else none
  | .after (.array ds :: fs) d =>
    match t with
    | .comma => some (.value (.array (d :: ds) :: fs))
    | .arrayEnd => some (.after fs (.array (d :: ds).reverse))
    | _ => none
  | .after (.object ms k :: fs) d =>
    match t with
    | .comma => some (.key ((k, d) :: ms) fs)
    | .objectEnd => some (.after fs (.object ((k, d) :: ms).reverse))
    | _ => none
  | .after [] _ => none

def State.run : State → List Token → Option State
  | s, [] => some s
  | s, t :: ts => (s.step t).bind fun s => s.run ts

def Doc.ofTokens? (ts : List Token) : Option Doc :=
  match (State.value []).run ts with
  | some (.after [] d) => some d
  | _ => none

def Doc.read? (cs : List Char) : Option Doc := (tokens cs).bind Doc.ofTokens?

/-! ### Values -/

mutual

/-- How many brackets of a document stand inside one another. -/
def Doc.depth : Doc → Nat
  | .array ds => itemsDepth ds + 1
  | .object ms => membersDepth ms + 1
  | _ => 0

def itemsDepth : List Doc → Nat
  | [] => 0
  | d :: ds => max d.depth (itemsDepth ds)

def membersDepth : List (Option String × Doc) → Nat
  | [] => 0
  | (_, d) :: ms => max d.depth (membersDepth ms)

end

mutual

def Doc.value? : Doc → Option Json
  | .null => some .null
  | .bool b => some (.bool b)
  | .number n => n.value?
  | .string s => s.map .string
  | .array ds => (itemValues? ds).map .array
  | .object ms => (memberValues? ms).map .object

def itemValues? : List Doc → Option (List Json)
  | [] => some []
  | d :: ds => d.value?.bind fun v => (itemValues? ds).map (v :: ·)

/-- The members in ascending order of their keys; of two with the same key, the later one. -/
def memberValues? : List (Option String × Doc) → Option Members
  | [] => some []
  | (k, d) :: ms => k.bind fun k => d.value?.bind fun v =>
      (memberValues? ms).map fun rest =>
        if (rest.lookup k).isSome then rest else rest.set k v

end

def deepest : Nat := 127

def read? (cs : List Char) : Option Json :=
  (Doc.read? cs).bind fun d => if d.depth ≤ deepest then d.value? else none

end Criteria.Json
