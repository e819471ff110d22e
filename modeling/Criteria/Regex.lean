/-
  Criteria/Regex.lean
  ===================
  **Regular expressions.**  An expression is a tree; which texts it matches is
  not our business here, but which trees can be matched at all.  Matching goes
  octet by octet through texts in UTF-8, and knows the letters of no script: so
  an expression must not match a part of a character, and must not ask for a
  character's class or case, nor where a word ends, except in ASCII.
-/
namespace Criteria

namespace Regex

/-! ### Parts -/

/-- What matches one character, or the place between two. -/
inductive Atom where
  /-- A character; `octet` if it is written as a number of two digits. -/
  | literal (c : Char) (octet : Bool)
  /-- Any character but a line feed. -/
  | dot
  /-- The start or the end of the text or of a line. -/
  | edge
  /-- The start or the end of a word, or neither. -/
  | boundary
  /-- Digits, blanks, or the characters of words; all others, if negated. -/
  | category (negated : Bool)
  deriving DecidableEq, Repr

inductive CharSet where
  | none
  | literal (c : Char)
  | range (first last : Char)
  | category (negated : Bool)
  /-- A class of ASCII characters that has a name. -/
  | named (negated : Bool)
  | bracket (negated : Bool) (set : CharSet)
  | union (sets : List CharSet)
  /-- What is in both sets, in the first alone, or in one of them alone. -/
  | combined (left right : CharSet)

/-- Flags that are set and flags that are taken back, by their letters. -/
structure Change where
  on : List Char := []
  off : List Char := []
  deriving DecidableEq, Repr

def Change.state? (c : Change) (flag : Char) : Option Bool :=
  if c.on.contains flag then some true else if c.off.contains flag then some false else none

end Regex

inductive Regex where
  | empty
  /-- A change of flags, up to the end of the group. -/
  | change (c : Regex.Change)
  | atom (a : Regex.Atom)
  | bracket (negated : Bool) (set : Regex.CharSet)
  | repeated (r : Regex)
  | group (c : Regex.Change) (r : Regex)
  | alternation (rs : List Regex)
  | concat (rs : List Regex)

namespace Regex

/-! ### Nesting -/

mutual

def CharSet.depth : CharSet → Nat
  | .bracket _ s => s.depth + 1
  | .union ss => setsDepth ss + 1
  | .combined l r => max l.depth r.depth + 1
  | _ => 0

def setsDepth : List CharSet → Nat
  | [] => 0
  | s :: ss => max s.depth (setsDepth ss)

end

mutual

def depth : Regex → Nat
  | .bracket _ s => s.depth + 1
  | .repeated r | .group _ r => r.depth + 1
  | .alternation rs | .concat rs => partsDepth rs + 1
  | _ => 0

def partsDepth : List Regex → Nat
  | [] => 0
  | r :: rs => max r.depth (partsDepth rs)

end

def deepest : Nat := 250

/-! ### Modes -/

/-- How what follows is matched: as characters or as octets, and with case or without. -/
structure Mode where
  unicode : Bool := true
  ignoreCase : Bool := false
  deriving DecidableEq, Repr

def Mode.changed (m : Mode) (c : Change) : Mode where
  unicode := (c.state? 'u').getD m.unicode
  ignoreCase := (c.state? 'i').getD m.ignoreCase

def isAscii (c : Char) : Bool := c.toNat < 0x80

def Atom.isSound (m : Mode) : Atom → Bool
  | .literal c octet => if m.unicode then !m.ignoreCase else isAscii c || !octet
  | .dot => m.unicode
  | .edge => true
  | .boundary => !m.unicode
  | .category negated => !m.unicode && !negated

/-- Whether the cases of a set, or of its complement, were still to be found before it ended; none,
    if they are not known.  The complement of a set of octets has one that is not ASCII. -/
def closed? (m : Mode) (negated isOpen : Bool) : Option Bool :=
  if (if m.unicode then m.ignoreCase && isOpen else negated) then none else some isOpen

mutual

/-- Whether a set that can be matched has members whose cases are still to be found; none, if it
    cannot be matched.  Cases are only known of sets without members and of their complements, and a
    set of octets must not have one that is not ASCII. -/
def CharSet.open? (m : Mode) : CharSet → Option Bool
  | .none => some false
  | .literal c => if m.unicode || isAscii c then some true else Option.none
  | .range a b => if m.unicode || (isAscii a && isAscii b) then some true else Option.none
  | .category negated => if m.unicode || negated then Option.none else some true
  | .named negated =>
    if (if m.unicode then m.ignoreCase else negated) then Option.none else some true
  | .bracket negated s => (s.open? m).bind fun isOpen => closed? m negated isOpen
  | .union ss => unionOpen? m ss
  | .combined l r => (l.open? m).bind fun l => (r.open? m).bind fun r => closed? m false (l || r)

def unionOpen? (m : Mode) : List CharSet → Option Bool
  | [] => some false
  | s :: ss => (s.open? m).bind fun isOpen => (unionOpen? m ss).map (isOpen || ·)

end

/-! ### Soundness -/

mutual

/-- The mode after an expression that can be matched in a mode. -/
def after? (m : Mode) : Regex → Option Mode
  | .empty => some m
  | .change c => some (m.changed c)
  | .atom a => if a.isSound m then some m else none
  | .bracket negated s => ((s.open? m).bind fun isOpen => closed? m negated isOpen).map fun _ => m
  | .repeated r => r.after? m
  | .group c r => (r.after? (m.changed c)).map fun _ => m
  | .alternation rs | .concat rs => partsAfter? m rs

def partsAfter? (m : Mode) : List Regex → Option Mode
  | [] => some m
  | r :: rs => (r.after? m).bind fun m => partsAfter? m rs

end

def isSound (r : Regex) : Bool := r.depth ≤ deepest && (r.after? {}).isSome

end Regex

end Criteria
