/-
  Criteria/Yaml/V12/Stream.lean
  =============================
  **The tokens of a YAML stream.**  Tokens are read one after the other.  Block
  collections have no brackets: they open where a token stands further in than
  the collection around it, and close where one stands further out.  A key may
  come without its indicator; it is recognised when the colon after it is met,
  and its indicator is put in before it.

  The *margin* is the least column of what belongs to the innermost level of
  indentation.  After a key's colon the margin is one column further in, until
  it is known whether a collection starts there; such a level is *provisional*.
-/
import Criteria.Text.Digits
import Criteria.Yaml.V12.Scalar

namespace Criteria.Yaml.V12

structure Candidate where
  /-- How many tokens come before it. -/
  before : Nat
  line : Nat
  column : Nat
  index : Nat
  /-- It stands where nothing but a key can. -/
  required : Bool

structure Level where
  /-- The margin outside the level. -/
  outer : Nat
  /-- No collection has started on the level. -/
  provisional : Bool

structure Reader where
  place : Place
  tokens : Array Token := #[]
  /-- The candidate of each open flow collection, innermost first, and last of all the one of the
      block around them. -/
  candidates : List (Option Candidate) := [none]
  margin : Nat := 0
  /-- The levels of indentation, innermost first. -/
  levels : List Level := []
  /-- A key may start here without its indicator. -/
  keyAllowed : Bool := true
  /-- Nothing but blanks is before the place on its line. -/
  lineFresh : Bool := true
  /-- Where a colon may stand against what follows it. -/
  adjacent : Nat := 0
  /-- A flow mapping has been opened, or a key of a pair in a flow sequence has its indicator. -/
  pairOpen : Bool := false
  /-- Of each open flow sequence, innermost first, whether a pair without a key's indicator is open
      in it. -/
  barePairs : List Bool := []

namespace Reader

def flowDepth (r : Reader) : Nat := r.candidates.length - 1

def inFlow (r : Reader) : Bool := r.flowDepth ≠ 0

def push (r : Reader) (t : Token) : Reader := { r with tokens := r.tokens.push t }

def insert (r : Reader) (position : Nat) (t : Token) : Reader :=
  { r with tokens := r.tokens.insertIdxIfInBounds position t }

def skip (r : Reader) (n : Nat) : Reader := { r with place := r.place.skip n, lineFresh := false }

def skipTrail (r : Reader) : Option Reader :=
  (takeTrail? r.place).map fun t => { r with place := t.place }

/-! ### Levels of indentation -/

def closeTo (least : Nat) (tokens : Array Token) (margin : Nat) :
    List Level → Array Token × Nat × List Level
  | [] => (tokens, margin, [])
  | l :: ls =>
    if least < margin then
      closeTo least (if l.provisional then tokens else tokens.push .blockEnd) l.outer ls
    else (tokens, margin, l :: ls)

/-- The levels that stand further in than a margin are closed, except in a flow collection. -/
def unroll (r : Reader) (least : Nat) : Reader :=
  if r.inFlow then r
  else
    let (tokens, margin, levels) := closeTo least r.tokens r.margin r.levels
    { r with tokens, margin, levels }

def dropProvisional (r : Reader) : Reader :=
  match r.levels with
  | l :: ls => if l.provisional then { r with margin := l.outer, levels := ls } else r
  | [] => r

def roll (r : Reader) (column position : Nat) (t : Token) : Reader :=
  if r.inFlow then r
  else
    let r := if r.margin ≤ column + 1 then r.dropProvisional else r
    if r.margin ≤ column then
      { r.insert position t with margin := column + 1, levels := ⟨r.margin, false⟩ :: r.levels }
    else r

def rollOne (r : Reader) : Reader :=
  match r.levels with
  | l :: _ =>
    if r.inFlow || l.provisional then r
    else { r with margin := r.margin + 1, levels := ⟨r.margin, true⟩ :: r.levels }
  | [] => r

/-! ### Keys -/

/-- The candidate of the innermost collection is dropped, unless a key had to be there. -/
def dropCandidate (r : Reader) : Option Reader :=
  match r.candidates with
  | some c :: rest => if c.required then none else some { r with candidates := none :: rest }
  | _ => some r

def saveCandidate (r : Reader) : Reader :=
  if r.keyAllowed then
    let p := r.place
    let bound := r.levels.head?.any fun l => !l.provisional
    let c : Candidate :=
      { before := r.tokens.size, line := p.line, column := p.column, index := p.index
        required := !r.inFlow && r.margin = p.column + 1 && bound }
    { r with candidates := some c :: r.candidates.drop 1 }
  else r

/-- In a block, a candidate on another line or too far away is dropped. -/
def expire (r : Reader) : Option Reader :=
  match r.candidates with
  | some c :: _ =>
    if r.inFlow || (c.line = r.place.line && r.place.index ≤ c.index + 1024) then some r
    else r.dropCandidate
  | _ => some r

/-! ### White space between tokens -/

/-- The next line.  In a block a key may start there. -/
def nextLine (r : Reader) : Reader :=
  { r with
    place := afterBreak r.place
    lineFresh := true
    keyAllowed := r.keyAllowed || !r.inFlow }

/-- The place of the next token: blanks, comments and line breaks are passed.  A tab outside the
    margin of a block stands only on a line without text. -/
def toNextToken : (steps : Nat) → Reader → Option Reader
  | 0, r => some r
  | s + 1, r =>
    let p := r.place
    match p.rest with
    | [] => some r
    | c :: _ =>
      if c = '\t' && !r.levels.isEmpty && r.lineFresh && p.column + 1 < r.margin then
        r.skipTrail.bind fun r => if atBreak r.place.rest then toNextToken s r else none
      else if isSpaceOrTab c then toNextToken s { r with place := p.skip 1 }
      else if isBreak c then toNextToken s r.nextLine
      else if c = '#' then toNextToken s { r with place := p.skipWhile fun c => !isBreak c }
      else some r

/-- The place after the spaces, comments and line breaks at a place, with at least one space or line
    break among them, and no tab after them. -/
def skipKeySpace : (steps : Nat) → (met : Bool) → Reader → Option Reader
  | 0, _, _ => none
  | s + 1, met, r =>
    match r.place.rest with
    | [] => if met then some r else none
    | c :: _ =>
      if c = ' ' then skipKeySpace s true { r with place := r.place.skip 1 }
      else if isBreak c then skipKeySpace s true r.nextLine
      else if c = '#' then
        skipKeySpace s met { r with place := r.place.skipWhile fun c => !isBreak c }
      else if met && c ≠ '\t' then some r
      else none

/-! ### Tokens -/

def endStream (r : Reader) : Option Reader :=
  if r.candidates.any fun c => c.any Candidate.required then none else some (r.unroll 0)

/-- A line that starts or ends a document.  Nothing else stands on a line that ends one. -/
def documentMark (r : Reader) : Option Reader :=
  (r.unroll 0).dropCandidate.bind fun r =>
    if r.place.at_ ['-'] then some { (r.push .documentStart).skip 3 with keyAllowed := false }
    else
      ({ (r.push .documentEnd).skip 3 with keyAllowed := false } : Reader).skipTrail.filter
        fun r => atBreak r.place.rest

def takeVersionNumber? (p : Place) : Option Place :=
  let (ds, p) := p.takeWhile Text.isDigit
  if ds.isEmpty ∨ 9 < ds.length then none else some p

def takeVersion? (p : Place) : Option (Token × Place) := do
  let p ← takeVersionNumber? (p.skipWhile isSpaceOrTab)
  if p.at_ ['.'] then return (.version, ← takeVersionNumber? (p.skip 1)) else none

/-- What a handle stands for, and the place after it: it starts with an exclamation mark or with a
    character of a suffix. -/
def takeStart? (p : Place) : Option (List Char × Place) :=
  if p.at_ ['!'] then (takeUri? isUriChar (p.skip 1)).map fun (t, q) => ('!' :: t, q)
  else if p.rest.head?.any isTagChar then takeUri? isUriChar p
  else none

def takeHandleStart? (p : Place) : Option (Token × Place) := do
  let (name, p) ← takeHandle? (p.skipWhile isSpaceOrTab)
  if name = ['!'] && p.rest.head?.any isNameChar then none
  else
    let (start, p) ← takeStart? (p.skipWhile isSpaceOrTab)
    if atBlank p.rest then return (.handle name start, p) else none

/-- A directive.  One of another name stands for no handle. -/
def directive (r : Reader) : Option Reader :=
  (r.unroll 0).dropCandidate.bind fun r =>
    let (name, p) := (r.place.skip 1).takeWhile isNameChar
    let read :=
      if name.isEmpty || !atBlank p.rest then none
      else if name = "YAML".toList then takeVersion? p
      else if name = "TAG".toList then takeHandleStart? p
      else some (.handle [] [], p.skipWhile fun c => !isBreak c)
    read.bind fun (t, p) =>
      ({ r.push t with place := p, keyAllowed := false } : Reader).skipTrail.bind fun r =>
        if atBreak r.place.rest then some { r with place := afterBreak r.place, lineFresh := true }
        else none

def deepest : Nat := 255

def openFlow (r : Reader) (isMapping : Bool) : Option Reader :=
  let r := r.saveCandidate.rollOne
  if r.flowDepth = deepest then none
  else
    let r := { r.skip 1 with
      candidates := none :: r.candidates
      keyAllowed := true
      pairOpen := r.pairOpen || isMapping
      barePairs := if isMapping then r.barePairs else false :: r.barePairs }
    r.skipTrail.map fun r => r.push (if isMapping then .flowMappingStart else .flowSequenceStart)

/-- The pair of a flow sequence that has no key's indicator ends, if there is one. -/
def endBarePair (r : Reader) : Reader :=
  match r.barePairs with
  | true :: rest =>
    { r.push .flowMappingEnd with pairOpen := false, barePairs := false :: rest }
  | _ => r

/-- The end of a flow collection.  After it, in another one, a colon may stand against a value. -/
def closeFlow (r : Reader) (isMapping : Bool) : Option Reader :=
  r.dropCandidate.bind fun r =>
    let candidates := match r.candidates with
      | _ :: c :: cs => c :: cs
      | cs => cs
    let r := { r with candidates, keyAllowed := false }
    let r := if isMapping then r else
      let r := r.endBarePair
      { r with barePairs := r.barePairs.drop 1 }
    (r.skip 1).skipTrail.map fun r =>
      let r := if r.inFlow then { r with adjacent := r.place.index } else r
      r.push (if isMapping then .flowMappingEnd else .flowSequenceEnd)

def flowEntry (r : Reader) : Option Reader :=
  r.dropCandidate.bind fun r =>
    (({ r with keyAllowed := true } : Reader).endBarePair.skip 1).skipTrail.map fun r =>
      r.push .flowEntry

/-- An item's hyphen.  Another one after it needs a space between the two. -/
def blockEntry (r : Reader) : Option Reader :=
  if r.inFlow || !r.keyAllowed then none
  else
    let column := r.place.column
    let r := (r.skip 1).roll column r.tokens.size .blockSequenceStart
    (takeTrail? r.place).bind fun t =>
      if t.tabs && atMark t.place '-' then none
      else
        let r := { r with place := t.place }
        let opens := r.place.rest.head?.any fun c => isBreak c || isFlowMark c
        let r := if opens then r.rollOne else r
        r.dropCandidate.map fun r => { r.push .blockEntry with keyAllowed := true }

def key (r : Reader) : Option Reader :=
  if !r.inFlow && !r.keyAllowed then none
  else
    let r := if r.inFlow then { r with pairOpen := true }
      else r.roll r.place.column r.tokens.size .blockMappingStart
    r.dropCandidate.bind fun r =>
      let r := { r.skip 1 with keyAllowed := !r.inFlow }
      (r.skipKeySpace (r.place.rest.length + 1) false).map fun r => r.push .key

/-- The place after a value's colon.  A tab right after it is no blank to a word. -/
def skipColon (r : Reader) : Option Reader :=
  let r := r.skip 1
  if r.place.at_ ['\t'] then
    (takeTrail? r.place).bind fun t =>
      if !t.spaces && t.place.rest.head?.any isNameChar then none
      else some { r with place := t.place }
  else some r

/-- A value's colon.  In a flow sequence it may start a pair without a key's indicator. -/
def value (r : Reader) : Option Reader :=
  let colon := r.place
  let bare := !r.barePairs.isEmpty && !r.pairOpen
  let r := if bare then { r with barePairs := true :: r.barePairs.drop 1 } else r
  r.skipColon.bind fun r =>
    match r.candidates with
    | some c :: rest =>
      if bare && c.line < colon.line then none
      else
        let r := r.insert c.before .key
        let r := if bare then r.insert c.before .flowMappingStart else r
        let r := (r.roll c.column c.before .blockMappingStart).rollOne
        some { r.push .value with candidates := none :: rest, keyAllowed := false }
    | _ =>
      let r := if bare then r.push .flowMappingStart else r
      if !r.inFlow && !r.keyAllowed then none
      else
        let r := (r.roll colon.column r.tokens.size .blockMappingStart).rollOne
        some { r.push .value with keyAllowed := !r.inFlow }

def named (r : Reader) (token : List Char → Token) : Option Reader :=
  let r := r.saveCandidate.skip 1
  let (name, p) := r.place.takeWhile isAnchorChar
  if name.isEmpty then none
  else some { r.push (token name) with place := p, keyAllowed := false }

def tag (r : Reader) : Option Reader :=
  let r := r.saveCandidate
  (takeTag? r.place).bind fun (t, p) =>
    if atBlank p.rest || (r.inFlow && p.rest.head?.any isFlowMark) then
      some { r.push (.tag t) with place := p, keyAllowed := false, lineFresh := false }
    else none

def blockScalar (r : Reader) (literal : Bool) : Option Reader :=
  let r := (r.saveCandidate.skip 1).dropProvisional
  (takeBlock literal r.margin r.place).map fun (text, p) =>
    { r.push (.scalar false text) with place := p, keyAllowed := true, lineFresh := true }

/-- A quoted scalar.  After it, in a flow collection, a colon may stand against a value. -/
def quotedScalar (r : Reader) (double : Bool) : Option Reader :=
  let r := { r.saveCandidate with keyAllowed := false }
  let line := r.place.line
  let steps := r.place.rest.length + 1
  (takeQuoted double r.margin steps [] (r.place.skip 1)).bind fun (text, p) =>
    (takeTrail? p).bind fun t =>
      if mayFollowQuoted r.inFlow line t.place then
        ({ r with place := t.place, lineFresh := false } : Reader).toNextToken steps |>.map fun r =>
          { r.push (.scalar false text) with adjacent := r.place.index }
      else none

/-- A plain scalar.  One that ends on a later line leaves a key free to start. -/
def plainScalar (r : Reader) : Option Reader :=
  let r := r.saveCandidate.dropProvisional
  if r.inFlow && r.place.column < r.margin then none
  else
    (takePlain r.inFlow r.margin (r.place.rest.length + 1) [] {} r.place).map
      fun (text, p, broken) =>
        { r.push (.scalar true text) with place := p, keyAllowed := broken, lineFresh := broken }

def token (r : Reader) (c : Char) : Option Reader :=
  let p := r.place
  let next := p.rest.drop 1
  if p.column = 0 && c = '%' then r.directive
  else if atDocumentMark p then r.documentMark
  else if p.column + 1 < r.margin then none
  else if c = '[' then r.openFlow false
  else if c = '\x7b' then r.openFlow true
  else if c = ']' then r.closeFlow false
  else if c = '\x7d' then r.closeFlow true
  else if c = ',' then r.flowEntry
  else if c = '-' && atBlank next then r.blockEntry
  else if c = '?' && atBlank next then r.key
  else if c = ':' && (atBlank next
      || (r.inFlow && (next.head?.any isFlowMark || p.index = r.adjacent))) then r.value
  else if c = '*' then r.named .alias
  else if c = '&' then r.named .anchor
  else if c = '!' then r.tag
  else if c = '|' && !r.inFlow then r.blockScalar true
  else if c = '>' && !r.inFlow then r.blockScalar false
  else if c = '\'' then r.quotedScalar false
  else if c = '"' then r.quotedScalar true
  else if c = '%' || c = '@' || c = '\x60' then none
  else r.plainScalar

/-- The tokens up to the end of the stream.  Each step uses up at least one character. -/
def run : (steps : Nat) → Reader → Option Reader
  | 0, _ => none
  | s + 1, r =>
    (r.toNextToken (r.place.rest.length + 1)).bind fun r => r.expire.bind fun r =>
      let r := r.unroll (r.place.column + 1)
      match r.place.rest with
      | [] => r.endStream
      | c :: _ => (r.token c).bind fun r => r.run s

end Reader

/-- The tokens of a text, if it is a stream.  A zero character ends it. -/
def tokens (cs : List Char) : Option (List Token) :=
  let cs := cs.takeWhile (· ≠ '\x00')
  ((Reader.mk { rest := cs } #[] [none] 0 [] true true 0 false []).run (cs.length + 1)).map
    fun r => r.tokens.toList

end Criteria.Yaml.V12
