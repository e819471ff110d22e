/-
  Criteria/Fragment.lean
  ======================
  **Fragments and their positions.**  A condition renders to one fragment: a
  relational clause, a search document, or nothing.  The fragments of a list of
  conditions keep the positions of their conditions, counted from one.

  `Fragments` mirrors `SnippetMap` with its `conjunction`.
-/
import Criteria.Json

namespace Criteria

inductive Fragment where
  | sql (text : String)
  | search (document : Json)
  | unsupported

namespace Fragment

def isUnsupported : Fragment → Bool
  | unsupported => true
  | _ => false

def asSql? : Fragment → Option String
  | sql s => some s
  | _ => none

def asSearch? : Fragment → Option Json
  | search d => some d
  | _ => none

/-- Clauses as they are, documents as compact JSON, and nothing as the empty text. -/
def text : Fragment → String
  | sql s => s
  | search d => d.text
  | unsupported => ""

def toJson : Fragment → Json
  | sql s => .string s
  | search d => d
  | unsupported => .null

end Fragment

/-- The fragments of a list of conditions, in order. -/
structure Fragments where
  inOrder : List Fragment

namespace Fragments

def size (f : Fragments) : Nat := f.inOrder.length

def entries (f : Fragments) : List (Nat × Fragment) :=
  f.inOrder.zipIdx.map fun e => (e.2 + 1, e.1)

def get? (f : Fragments) : (position : Nat) → Option Fragment
  | 0 => none
  | n + 1 => f.inOrder[n]?

def strings (f : Fragments) : List (Nat × String) := f.entries.map fun e => (e.1, e.2.text)

def clauses (f : Fragments) : List String := f.inOrder.filterMap Fragment.asSql?

/-- The relational clauses joined by `AND`, if there are any. -/
def conjunction? (f : Fragments) : Option String :=
  match f.clauses with
  | [] => none
  | cs => some (" AND ".intercalate cs)

def toJson (f : Fragments) : Json :=
  .object (f.entries.map fun e => (String.ofList (Text.digits e.1), e.2.toJson))

end Fragments

end Criteria
