/-
  Criteria/Yaml/V11/Tag.lean
  ==========================
  **Tags.**  A tag is a sequence of octets.  In a stream it is written with a
  handle, which stands for the start of the tag, and a suffix; octets may be
  written as a percent sign and two hexadecimal digits, as long as the first of
  them says how many there are of a character and the others go on with it.
-/
import Criteria.Text.Octets
import Criteria.Yaml.Place

namespace Criteria.Yaml.V11

abbrev Tag := List UInt8

def Tag.ofChars (cs : List Char) : Tag := (String.ofList cs).toUTF8.toList

def Tag.text? (t : Tag) : Option String := String.fromUTF8? ⟨t.toArray⟩

/-! ### Written tags -/

/-- The characters that tags are written with; commas and square brackets only in one that is
    written whole or in the start of one. -/
def isTagChar (whole : Bool) (c : Char) : Bool :=
  isNameChar c || ";/?:@&=+$.%!~*'()".toList.contains c || (whole && ",[]".toList.contains c)

def octets? : (steps : Nat) → List Char → Option Tag
  | _, [] => some []
  | 0, _ => none
  | s + 1, c :: cs =>
    if c = '%' then (Text.takeEscaped? (c :: cs)).bind fun (os, cs) =>
      (octets? s cs).map (os.map (·.toUInt8) ++ ·)
    else (octets? s cs).map ((c.toNat.toUInt8) :: ·)

/-- What is written of a tag at a place, up to an octet of zero, and the place after it. -/
def takeUri? (whole : Bool) (p : Place) : Option (Tag × Place) :=
  let (cs, p) := p.takeWhile (isTagChar whole)
  (octets? cs.length cs).map fun t => (t.takeWhile (· ≠ 0), p)

/-- The handle at a place, and the place after it: an exclamation mark, alone or with a second one
    after it, perhaps with a name between the two. -/
def takeHandle? (p : Place) : Option (List Char × Place) :=
  if p.at_ ['!'] then
    let (name, q) := (p.skip 1).takeWhile isNameChar
    if q.at_ ['!'] then some ('!' :: (name ++ ['!']), q.skip 1) else some (['!'], p.skip 1)
  else none

/-- The handle and the suffix of a tag, and the place after it.  A tag that is written whole has the
    empty handle, and so has the one that is an exclamation mark alone. -/
def takeTag (p : Place) : Option (List Char × Tag × Place) :=
  if p.at_ ['!', '<'] then
    let q := p.skip 2
    (takeUri? true q).bind fun (t, r) =>
      if r.index = q.index || !r.at_ ['>'] then none else some ([], t, r.skip 1)
  else
    (takeHandle? p).bind fun (handle, q) =>
      (takeUri? false q).bind fun (t, r) =>
        if handle = ['!'] then
          some (if t.isEmpty then ([], Tag.ofChars ['!'], r) else (handle, t, r))
        else if r.index = q.index then none
        else some (handle, t, r)

end Criteria.Yaml.V11
