/-
  Criteria/Yaml/V12/Scalar.lean
  =============================
  **The three forms of a scalar.**  A plain scalar ends where its context does;
  a quoted one at its quote; a block scalar with its indentation.  In the first
  two, a single line break is read as a blank and further ones as line feeds.

  The *margin* is the least column of what belongs to the collection that a
  scalar stands in.  A quoted scalar may stand one column further out.
-/
import Criteria.Yaml.Scalar
import Criteria.Yaml.V12.Token

namespace Criteria.Yaml.V12

/-! ### Plain scalars -/

/-- A plain scalar ends here: at a colon with a blank after it, and in a flow collection also at an
    indicator, or at a colon with one after it. -/
def endsPlain (inFlow : Bool) (c : Char) (cs : List Char) : Bool :=
  (c = ':' && (atBlank cs || (inFlow && cs.head?.any isFlowMark))) || (inFlow && isFlowMark c)

def takePlainRun (inFlow : Bool) : List Char → (reversed : List Char) → List Char
  | [], r => r
  | c :: cs, r =>
    if atBlank (c :: cs) || endsPlain inFlow c cs then r else takePlainRun inFlow cs (c :: r)

/-- The gap at a place in a plain scalar, and the place after it.  A tab outside the margin stands
    only on a line without text. -/
def takePlainGap (margin : Nat) : (steps : Nat) → Gap → Place → Option (Gap × Place)
  | 0, g, p => some (g, p)
  | s + 1, g, p =>
    match p.rest with
    | [] => some (g, p)
    | c :: _ =>
      if isSpaceOrTab c then
        if !g.broken then takePlainGap margin s { g with blanks := g.blanks ++ [c] } (p.skip 1)
        else if c = '\t' ∧ p.column < margin then
          (takeTrail? p).bind fun t =>
            if atBreak t.place.rest then takePlainGap margin s g t.place else none
        else takePlainGap margin s g (p.skip 1)
      else if isBreak c then
        let g := if g.broken then { g with further := g.further ++ ['\n'] }
          else { g with first := ['\n'], broken := true }
        takePlainGap margin s g (afterBreak p)
      else some (g, p)

def takePlain (inFlow : Bool) (margin : Nat) :
    (steps : Nat) → (text : List Char) → Gap → Place → Option (List Char × Place × Bool)
  | 0, text, g, p => some (text, p, g.broken)
  | s + 1, text, g, p =>
    if atDocumentMark p || p.at_ ['#'] then some (text, p, g.broken)
    else if inFlow && p.at_ ['-'] && (p.rest.drop 1).head?.any isFlowMark then none
    else
      let run := takePlainRun inFlow p.rest []
      let text := if run.isEmpty then text else text ++ g.folded ++ run.reverse
      let g := if run.isEmpty then g else {}
      let q := p.skip run.length
      if !atBlank q.rest || q.rest.isEmpty then some (text, q, g.broken)
      else
        (takePlainGap margin (q.rest.length + 1) g q).bind fun (g, q) =>
          if !inFlow && q.column < margin then some (text, q, g.broken)
          else takePlain inFlow margin s text g q

/-! ### Quoted scalars -/

def takeQuotedGap (margin : Nat) : (steps : Nat) → Gap → Place → Option (Gap × Place)
  | 0, g, p => some (g, p)
  | s + 1, g, p =>
    match p.rest with
    | [] => some (g, p)
    | c :: _ =>
      if isSpaceOrTab c then
        if !g.broken then takeQuotedGap margin s { g with blanks := g.blanks ++ [c] } (p.skip 1)
        else if c = '\t' ∧ p.column + 1 < margin then none
        else takeQuotedGap margin s g (p.skip 1)
      else if isBreak c then
        let g := if g.broken then { g with further := g.further ++ ['\n'] }
          else { g with first := ['\n'], broken := true }
        takeQuotedGap margin s g (afterBreak p)
      else some (g, p)

def takeQuoted (double : Bool) (margin : Nat) : (steps : Nat) → (text : List Char) → Place →
    Option (List Char × Place)
  | 0, _, _ => none
  | s + 1, text, p =>
    if atDocumentMark p || p.rest.isEmpty || p.column + 1 < margin then none
    else
      (takeQuotedRun isBreak double (p.rest.length + 1) [] p).bind fun (run, q, stop) =>
        let text := text ++ run.reverse
        let go (g : Gap) (q : Place) : Option (List Char × Place) :=
          (takeQuotedGap margin (q.rest.length + 1) g q).bind fun (g, q) =>
            takeQuoted double margin s (text ++ g.folded) q
        match stop with
        | .quote => some (text, q)
        | .space => go {} q
        | .joined =>
          let q := afterBreak q
          if q.at_ ['"'] then some (text, q.skip 1) else go { broken := true } q

/-- What may follow a quoted scalar that starts on a line: the end of the line, a colon, or what
    goes on with or ends the flow collection around it.  In a block the colon is on the same
    line. -/
def mayFollowQuoted (inFlow : Bool) (line : Nat) (p : Place) : Bool :=
  match p.rest with
  | [] => true
  | c :: _ =>
    isBreak c || (c = ':' && (inFlow || p.line = line))
      || (inFlow && (c = ',' || c = ']' || c = '\x7d'))

/-! ### Block scalars -/

/-- Indentation and line breaks before a line of a block scalar whose indentation is known. -/
def takeIndent (indent : Nat) : (steps : Nat) → (breaks : List Char) → Place → List Char × Place
  | 0, breaks, p => (breaks, p)
  | s + 1, breaks, p =>
    let p := p.skip (min (indent - p.column) (p.rest.takeWhile (· = ' ')).length)
    if p.rest.head?.any isBreak then takeIndent indent s (breaks ++ ['\n']) (afterBreak p)
    else (breaks, p)

/-- Indentation and line breaks before the first line of a block scalar, with the deepest column
    seen. -/
def takeFirstIndent : (steps : Nat) → (deepest : Nat) → (breaks : List Char) → Place →
    Nat × List Char × Place
  | 0, deepest, breaks, p => (deepest, breaks, p)
  | s + 1, deepest, breaks, p =>
    let p := p.skipWhile (· = ' ')
    let deepest := max deepest p.column
    if p.rest.head?.any isBreak then takeFirstIndent s deepest (breaks ++ ['\n']) (afterBreak p)
    else (deepest, breaks, p)

/-- The lines of a block scalar.  `lead` is the line break before the line, `breaks` the further
    ones, and `blankBefore` says whether the line before started with a blank. -/
def takeLines (literal : Bool) (indent : Nat) : (steps : Nat) → (text lead breaks : List Char) →
    (blankBefore : Bool) → Place → List Char × List Char × List Char × Place
  | 0, text, lead, breaks, _, p => (text, lead, breaks, p)
  | s + 1, text, lead, breaks, blankBefore, p =>
    if p.column ≠ indent ∨ p.rest.isEmpty ∨ (indent = 0 ∧ p.at_ ['.'] ∧ atDocumentMark p) then
      (text, lead, breaks, p)
    else
      let blank := p.rest.head?.any isSpaceOrTab
      let folds := !literal && !lead.isEmpty && !blankBefore && !blank
      let join := if folds then (if breaks.isEmpty then [' '] else breaks) else lead ++ breaks
      let (content, q) := p.takeWhile fun c => !isBreak c
      let text := text ++ join ++ content
      if q.rest.isEmpty then (text, [], [], q)
      else
        let (further, q) := takeIndent indent (q.rest.length + 1) [] (afterBreak q)
        takeLines literal indent s text ['\n'] further blank q

/-- The text of a block scalar without a line, up to the end of the stream: of the line breaks after
    its header, the first counts only where there is no other. -/
def emptyBlock (chomp : Chomp) (first breaks : List Char) : List Char :=
  match chomp with
  | .strip => []
  | .clip => first
  | .keep => if first.isEmpty ∨ breaks.isEmpty then first else breaks

/-- A block scalar after its indicator: its text, and the place after it.  At the end of the stream
    its last line need not be ended. -/
def takeBlock (literal : Bool) (margin : Nat) (p : Place) : Option (List Char × Place) :=
  let (chomp, declared, n) := blockHeader p.rest
  (takeTrail? (p.skip n)).bind fun t =>
    let first := if t.place.rest.isEmpty then [] else ['\n']
    let p := afterBreak t.place
    let steps := p.rest.length + 1
    if !atBreak t.place.rest || p.at_ ['\t'] then none
    else
      let (indent, breaks, p) := match declared with
        | some i =>
          let indent := margin - 1 + i
          let (breaks, p) := takeIndent indent steps [] p
          (indent, breaks, p)
        | none =>
          let (deepest, breaks, p) := takeFirstIndent steps 0 [] p
          (max deepest margin, breaks, p)
      if p.rest.isEmpty then some (emptyBlock chomp first breaks, p)
      else if margin ≤ p.column ∧ p.column < indent then none
      else
        let (text, lead, breaks, p) := takeLines literal indent steps [] [] breaks false p
        let text := if chomp = .strip then text else text ++ lead
        let ended := chomp ≠ .strip ∧ p.rest.isEmpty ∧ max indent 1 ≤ p.column
        let text := if ended then text ++ ['\n'] else text
        some (if chomp = .keep then text ++ breaks else text, p)

end Criteria.Yaml.V12
