/-
  Criteria/Yaml/V11/Stream.lean
  =============================
  **The tokens of a YAML stream.**  Tokens are read one after the other.  Block
  collections have no brackets: they open where a token stands further in than
  the collection around it, and close where one stands further out.  A key may
  come without its indicator; it is recognised when the colon after it is met,
  and its indicator is put in before it.  For that to be, the key stands on the
  line of the colon and not too far from it.
-/
import Criteria.Text.Digits
import Criteria.Yaml.V11.Scalar

namespace Criteria.Yaml.V11

structure Candidate where
  /-- How many tokens come before it. -/
  before : Nat
  line : Nat
  column : Nat
  /-- How many octets come before it. -/
  octets : Nat
  /-- It stands where nothing but a key can. -/
  required : Bool

structure Reader where
  place : Place
  tokens : Array Token := #[]
  /-- The candidate of each open flow collection, innermost first, and last of all the one of the
      block around them. -/
  candidates : List (Option Candidate) := [none]
  /-- The columns of the open block collections, innermost first. -/
  columns : List Nat := []
  /-- A key may start here without its indicator. -/
  keyAllowed : Bool := true

namespace Reader

def inFlow (r : Reader) : Bool := r.candidates.length > 1

def push (r : Reader) (t : Token) : Reader := { r with tokens := r.tokens.push t }

def skip (r : Reader) (n : Nat) : Reader := { r with place := r.place.skip n }

/-- The least column of the contents of the innermost block collection. -/
def contentColumn (r : Reader) : Nat :=
  match r.columns with
  | [] => 0
  | c :: _ => c + 1

/-! ### Collections -/

/-- The block collections that stand further in than a column are closed. -/
def closeTo (column : Option Nat) (tokens : Array Token) : List Nat → Array Token × List Nat
  | [] => (tokens, [])
  | c :: cs =>
    if column.all (· < c) then closeTo column (tokens.push .blockEnd) cs else (tokens, c :: cs)

/-- The block collections that stand further in than a column, or all, are closed. -/
def unroll (r : Reader) (column : Option Nat) : Reader :=
  if r.inFlow then r
  else
    let (tokens, columns) := closeTo column r.tokens r.columns
    { r with tokens, columns }

/-- A block collection is opened if the column is further in than the innermost one. -/
def roll (r : Reader) (column position : Nat) (t : Token) : Reader :=
  if r.inFlow then r
  else if r.columns.head?.all (· < column) then
    { r with columns := column :: r.columns, tokens := r.tokens.insertIdxIfInBounds position t }
  else r

/-! ### Keys -/

/-- The candidate of the innermost collection is dropped, unless a key had to be there. -/
def dropCandidate (r : Reader) : Option Reader :=
  match r.candidates with
  | some c :: rest => if c.required then none else some { r with candidates := none :: rest }
  | _ => some r

/-- The token at the place may turn out to be a key. -/
def saveCandidate (r : Reader) : Option Reader :=
  if r.keyAllowed then
    r.dropCandidate.map fun r =>
      let p := r.place
      let c : Candidate :=
        { before := r.tokens.size, line := p.line, column := p.column, octets := p.octets
          required := !r.inFlow && r.columns.head? == some p.column }
      { r with candidates := some c :: r.candidates.drop 1 }
  else some r

def near (r : Reader) (c : Candidate) : Bool :=
  c.line == r.place.line && r.place.octets ≤ c.octets + 1024

/-! ### White space between tokens -/

/-- The place of the next token: blanks, comments and line breaks are passed, and the mark of an
    encoding where a line starts with one.  After a line break in a block a key may start.  A tab
    may not stand where one could. -/
def toNextToken : (steps : Nat) → Reader → Reader
  | 0, r => r
  | s + 1, r =>
    let p := r.place
    let p := if p.column = 0 && p.at_ ['\ufeff'] then p.skip 1 else p
    let p := p.skipWhile fun c => c = ' ' || ((r.inFlow || !r.keyAllowed) && c = '\t')
    let p := if p.at_ ['#'] then p.skipWhile fun c => !isBreak c else p
    if p.rest.isEmpty || !atBreak p.rest then { r with place := p }
    else toNextToken s { r with place := (takeBreak p).2, keyAllowed := r.keyAllowed || !r.inFlow }

/-! ### Tokens -/

def endStream (r : Reader) : Option Reader := (r.unroll none).dropCandidate

def documentMark (r : Reader) : Option Reader :=
  let t := if r.place.at_ ['-'] then Token.documentStart else .documentEnd
  (r.unroll none).dropCandidate.map fun r => { (r.push t).skip 3 with keyAllowed := false }

def takeVersionNumber? (p : Place) : Option (Nat × Place) :=
  let (ds, p) := p.takeWhile Text.isDigit
  if ds.length ≤ 9 then (Text.readNat ds).map fun n => (n, p) else none

def takeVersion? (p : Place) : Option (Token × Place) := do
  let (major, p) ← takeVersionNumber? (p.skipWhile isSpaceOrTab)
  if p.at_ ['.'] then
    let (minor, p) ← takeVersionNumber? (p.skip 1)
    return (.version major minor, p)
  else none

def takeHandleStart? (p : Place) : Option (Token × Place) := do
  let (name, p) ← takeHandle? (p.skipWhile isSpaceOrTab)
  let q := p.skipWhile isSpaceOrTab
  let (start, r) ← takeUri? true q
  if q.index = p.index ∨ r.index = q.index ∨ !atBlank r.rest then none
  else return (.handle name start, r)

def directive (r : Reader) : Option Reader :=
  (r.unroll none).dropCandidate.bind fun r =>
    let (name, p) := (r.place.skip 1).takeWhile isNameChar
    let read :=
      if !atBlank p.rest then none
      else if name = "YAML".toList then takeVersion? p
      else if name = "TAG".toList then takeHandleStart? p
      else none
    read.bind fun (t, p) =>
      let p := p.skipWhile isSpaceOrTab
      let p := if p.at_ ['#'] then p.skipWhile fun c => !isBreak c else p
      if atBreak p.rest then some { r.push t with place := (takeBreak p).2, keyAllowed := false }
      else none

def openFlow (r : Reader) (t : Token) : Option Reader :=
  r.saveCandidate.map fun r =>
    { (r.push t).skip 1 with candidates := none :: r.candidates, keyAllowed := true }

def closeFlow (r : Reader) (t : Token) : Option Reader :=
  r.dropCandidate.map fun r =>
    let candidates := match r.candidates with
      | _ :: c :: cs => c :: cs
      | cs => cs
    { (r.push t).skip 1 with candidates, keyAllowed := false }

def flowEntry (r : Reader) : Option Reader :=
  r.dropCandidate.map fun r => { (r.push .flowEntry).skip 1 with keyAllowed := true }

def blockEntry (r : Reader) : Option Reader :=
  if !r.inFlow && !r.keyAllowed then none
  else
    (r.roll r.place.column r.tokens.size .blockSequenceStart).dropCandidate.map fun r =>
      { (r.push .blockEntry).skip 1 with keyAllowed := true }

def key (r : Reader) : Option Reader :=
  if !r.inFlow && !r.keyAllowed then none
  else
    (r.roll r.place.column r.tokens.size .blockMappingStart).dropCandidate.map fun r =>
      { (r.push .key).skip 1 with keyAllowed := !r.inFlow }

/-- The candidate of the innermost collection, if it can be the key of a colon here.  One that had
    to be a key and is too far away is an error. -/
def keyHere (r : Reader) : Option (Option Candidate) :=
  match r.candidates with
  | some c :: _ => if r.near c then some (some c) else if c.required then none else some none
  | _ => some none

def value (r : Reader) : Option Reader :=
  r.keyHere.bind fun
    | some c =>
      let r := { r with tokens := r.tokens.insertIdxIfInBounds c.before .key }
      let r := r.roll c.column c.before .blockMappingStart
      some { (r.push .value).skip 1 with
        candidates := none :: r.candidates.drop 1, keyAllowed := false }
    | none =>
      if !r.inFlow && !r.keyAllowed then none
      else
        let r := r.roll r.place.column r.tokens.size .blockMappingStart
        some { (r.push .value).skip 1 with keyAllowed := !r.inFlow }

def named (r : Reader) (token : List Char → Token) : Option Reader :=
  r.saveCandidate.bind fun r =>
    let (name, p) := (r.place.skip 1).takeWhile isNameChar
    let ends := atBlank p.rest || p.rest.head?.any fun c => "?:,]\x7d%@`".toList.contains c
    if name.isEmpty || !ends then none
    else some { r.push (token name) with place := p, keyAllowed := false }

def tag (r : Reader) : Option Reader :=
  r.saveCandidate.bind fun r =>
    (takeTag r.place).bind fun (handle, suffix, p) =>
      if atBlank p.rest || (r.inFlow && p.at_ [',']) then
        some { r.push (.tag handle suffix) with place := p, keyAllowed := false }
      else none

def blockScalar (r : Reader) (literal : Bool) : Option Reader :=
  r.dropCandidate.bind fun r =>
    (takeBlock literal r.columns.head? (r.place.skip 1)).map fun (text, p) =>
      { r.push (.scalar false text) with place := p, keyAllowed := true }

def quotedScalar (r : Reader) (double : Bool) : Option Reader :=
  r.saveCandidate.bind fun r =>
    (takeQuoted double (r.place.rest.length + 1) [] (r.place.skip 1)).map fun (text, p) =>
      { r.push (.scalar false text) with place := p, keyAllowed := false }

/-- A plain scalar.  One that ends on a later line leaves a key free to start. -/
def plainScalar (r : Reader) : Option Reader :=
  r.saveCandidate.bind fun r =>
    (takePlain r.inFlow r.contentColumn (r.place.rest.length + 1) [] {} r.place).map
      fun (text, p, broken) =>
        { r.push (.scalar true text) with place := p, keyAllowed := broken }

def indicators : List Char := "-?:,[]\x7b\x7d#&*!|>'\"%@`".toList

/-- A plain scalar may start here: with no indicator, or with one that has text against it. -/
def startsPlain (inFlow : Bool) : List Char → Bool
  | [] => false
  | c :: cs =>
    (!indicators.contains c && !atBlank (c :: cs))
      || (c = '-' && !cs.head?.any isSpaceOrTab)
      || (!inFlow && (c = '?' || c = ':') && !atBlank cs)

def token (r : Reader) (c : Char) : Option Reader :=
  let p := r.place
  if p.column = 0 && c = '%' then r.directive
  else if atDocumentMark p then r.documentMark
  else if c = '[' then r.openFlow .flowSequenceStart
  else if c = '\x7b' then r.openFlow .flowMappingStart
  else if c = ']' then r.closeFlow .flowSequenceEnd
  else if c = '\x7d' then r.closeFlow .flowMappingEnd
  else if c = ',' then r.flowEntry
  else if atMark p '-' then r.blockEntry
  else if c = '?' && (r.inFlow || atMark p '?') then r.key
  else if c = ':' && (r.inFlow || atMark p ':') then r.value
  else if c = '*' then r.named .alias
  else if c = '&' then r.named .anchor
  else if c = '!' then r.tag
  else if c = '|' && !r.inFlow then r.blockScalar true
  else if c = '>' && !r.inFlow then r.blockScalar false
  else if c = '\'' then r.quotedScalar false
  else if c = '"' then r.quotedScalar true
  else if startsPlain r.inFlow p.rest then r.plainScalar
  else none

/-- The tokens up to the end of the stream.  Each step uses up at least one character. -/
def run : (steps : Nat) → Reader → Option Reader
  | 0, _ => none
  | s + 1, r =>
    let r := r.toNextToken (r.place.rest.length + 1)
    let r := r.unroll (some r.place.column)
    match r.place.rest with
    | [] => r.endStream
    | c :: _ => (r.token c).bind fun r => r.run s

end Reader

def tokens (cs : List Char) : Option (List Token) :=
  if cs.all isAllowed then
    ((Reader.mk { rest := cs } #[] [none] [] true).run (cs.length + 1)).map fun r =>
      r.tokens.toList
  else none

end Criteria.Yaml.V11
