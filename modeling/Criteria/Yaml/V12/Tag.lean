/-
  Criteria/Yaml/V12/Tag.lean
  ==========================
  **Tags.**  A tag is a handle with a suffix.  A character of it may be written
  as a percent sign and two hexadecimal digits, once for each octet it has; the
  octets, one after the other, are then the number of the character.
-/
import Criteria.Text.Octets
import Criteria.Yaml.Place

namespace Criteria.Yaml.V12

/-- A tag: what its handle stands for, and its suffix. -/
structure Tag where
  handle : List Char
  suffix : List Char
  deriving DecidableEq, Repr

/-! ### Escapes -/

def takeEscapedChar? (cs : List Char) : Option (Char × List Char) := do
  let (os, cs) ← Text.takeEscaped? cs
  return (← Text.character? (os.foldl (fun n o => 256 * n + o) 0), cs)

def unescape? : (steps : Nat) → List Char → Option (List Char)
  | _, [] => some []
  | 0, _ => none
  | s + 1, c :: cs =>
    if c = '%' then (takeEscapedChar? (c :: cs)).bind fun (d, cs) => (unescape? s cs).map (d :: ·)
    else (unescape? s cs).map (c :: ·)

/-! ### Written tags -/

def isUriChar (c : Char) : Bool :=
  c.isAlphanum || "-#;/?:@&=+$,_.!~*'()[]%".toList.contains c

def isTagChar (c : Char) : Bool := isUriChar c && !isFlowMark c && c != '!'

def takeUri? (isMember : Char → Bool) (p : Place) : Option (List Char × Place) :=
  let (cs, p) := p.takeWhile isMember
  (unescape? cs.length cs).map fun t => (t, p)

/-- The handle at a place, and the place after it: an exclamation mark, alone or with a second one
    after it, perhaps with a name between the two. -/
def takeHandle? (p : Place) : Option (List Char × Place) :=
  if p.at_ ['!'] then
    let (name, q) := (p.skip 1).takeWhile isNameChar
    if q.at_ ['!'] then some ('!' :: (name ++ ['!']), q.skip 1) else some (['!'], p.skip 1)
  else none

/-- A tag at a place, its handle as it is written, and the place after it.  A tag that is written
    whole has the empty handle, and so has the one that is an exclamation mark alone. -/
def takeTag? (p : Place) : Option (Tag × Place) :=
  if p.at_ ['!', '<'] then
    (takeUri? isUriChar (p.skip 2)).bind fun (t, r) =>
      if r.at_ ['>'] then some (⟨[], t⟩, r.skip 1) else none
  else
    (takeHandle? p).bind fun (handle, q) =>
      (takeUri? isTagChar q).bind fun (t, r) =>
        if handle = ['!'] then some (if t.isEmpty then (⟨[], ['!']⟩, r) else (⟨handle, t⟩, r))
        else if t.isEmpty then none
        else some (⟨handle, t⟩, r)

/-! ### Handles -/

abbrev Handles := List (List Char × List Char)

/-- A tag with what its handle stands for.  A handle that is none of the two general ones has to be
    declared. -/
def Tag.resolved? (hs : Handles) (t : Tag) : Option Tag :=
  match hs.lookup t.handle with
  | some start => some { t with handle := start }
  | none =>
    if t.handle = "!!".toList then some { t with handle := "tag:yaml.org,2002:".toList }
    else if 2 ≤ t.handle.length then none
    else some t

end Criteria.Yaml.V12
