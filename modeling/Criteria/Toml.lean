/-
  Criteria/Toml.lean
  ==================
  **TOML values and the tables they are gathered in.**  A table is written once:
  by its own header, by dotted keys, or inside braces.  How it came about is
  kept with it, since that decides what may still be added to it.
-/
import Criteria.Number.Binary64

namespace Criteria

namespace Toml

inductive Origin where
  /-- Between braces; it is complete. -/
  | braces
  /-- By its own header. -/
  | header
  /-- By the header of a table inside it. -/
  | above
  /-- By a dotted key. -/
  | dotted
  deriving DecidableEq, Repr

/-- A table that no header and no braces of its own have written. -/
def Origin.isImplied : Origin → Bool
  | above | dotted => true
  | braces | header => false

end Toml

inductive Toml where
  | string (cs : List Char)
  | int (i : Int)
  | float (x : Binary64)
  | bool (b : Bool)
  /-- A date, a time, or both, as its text in full. -/
  | moment (cs : List Char)
  | array (items : List Toml)
  | table (origin : Toml.Origin) (entries : List (List Char × Toml))
  /-- The tables of one header in double brackets, the last one apart. -/
  | tables (last : List (List Char × Toml)) (earlier : List (List (List Char × Toml)))

namespace Toml

/-- A dotted key: the keys of the tables on the way, and the last key. -/
structure Path where
  above : List (List Char) := []
  last : List Char

def Path.keys (p : Path) : List (List Char) := p.above ++ [p.last]

abbrev Entries := List (List Char × Toml)

namespace Entries

def replace (k : List Char) (v : Toml) (es : Entries) : Entries :=
  es.map fun e => if e.1 = k then (k, v) else e

/-- A change to the table at the end of a path.  Tables that are not there yet are made on the way,
    by dotted keys or above a header.  Of tables in double brackets the last one is meant; dotted
    keys do not lead into a table that is written in full. -/
def within (dotted : Bool) (change : Origin → Entries → Option Entries) :
    (path : List (List Char)) → Origin → Entries → Option Entries
  | [], o, es => change o es
  | k :: ks, _, es =>
    let made : Origin := if dotted then .dotted else .above
    match es.lookup k with
    | none => (within dotted change ks made []).map fun inner => es ++ [(k, .table made inner)]
    | some (.table o inner) =>
      if o = .braces ∨ (dotted ∧ !o.isImplied) then none
      else (within dotted change ks o inner).map fun inner => es.replace k (.table o inner)
    | some (.tables last earlier) =>
      (within dotted change ks .header last).map fun last => es.replace k (.tables last earlier)
    | some _ => none

/-- A new entry under a dotted key.  Its table is the one it stands in, or one that dotted keys
    write. -/
def insert (p : Path) (v : Toml) (es : Entries) : Option Entries :=
  within true (fun o es =>
    if (o == .dotted) == p.above.isEmpty || (es.lookup p.last).isSome then none
    else some (es ++ [(p.last, v)])) p.above .header es

/-- The table of a header, new or so far only above others. -/
def openTable (p : Path) (es : Entries) : Option Entries :=
  within false (fun _ es =>
    match es.lookup p.last with
    | none => some (es ++ [(p.last, .table .header [])])
    | some (.table .above inner) => some (es.replace p.last (.table .header inner))
    | some _ => none) p.above .header es

/-- One more table of a header in double brackets. -/
def openItem (p : Path) (es : Entries) : Option Entries :=
  within false (fun _ es =>
    match es.lookup p.last with
    | none => some (es ++ [(p.last, .tables [] [])])
    | some (.tables last earlier) => some (es.replace p.last (.tables [] (last :: earlier)))
    | some _ => none) p.above .header es

def inside (keys : List (List Char)) (change : Entries → Option Entries) (es : Entries) :
    Option Entries :=
  within false (fun _ es => change es) keys .header es

end Entries

end Toml

end Criteria
