/-
  Criteria/Yaml/V11/Scalar.lean
  =============================
  **The three forms of a scalar.**  A plain scalar ends where its context does;
  a quoted one at its quote; a block scalar with its indentation.  In the first
  two, a single line break is read as a blank and further ones as line feeds.
-/
import Criteria.Yaml.Scalar
import Criteria.Yaml.V11.Token

namespace Criteria.Yaml.V11

/-! ### White space inside a scalar -/

/-- The gap at a place, and the place after it.  A tab may not stand where a line is indented by
    less than `indent`. -/
def takeGap (indent : Nat) : (steps : Nat) → Gap → Place → Option (Gap × Place)
  | 0, g, p => some (g, p)
  | s + 1, g, p =>
    match p.rest with
    | [] => some (g, p)
    | c :: _ =>
      if isSpaceOrTab c then
        if g.broken then
          if c = '\t' ∧ p.column < indent then none else takeGap indent s g (p.skip 1)
        else takeGap indent s { g with blanks := g.blanks ++ [c] } (p.skip 1)
      else if isBreak c then
        let (b, q) := takeBreak p
        if g.broken then takeGap indent s { g with further := g.further ++ b } q
        else takeGap indent s { g with first := b, broken := true } q
      else some (g, p)

/-! ### Plain scalars -/

/-- The characters of a plain scalar up to the next white space or to its end, last to first.  In a
    flow collection a colon may not stand against an indicator. -/
def takePlainRun (inFlow : Bool) : List Char → (reversed : List Char) → Option (List Char)
  | [], r => some r
  | c :: cs, r =>
    if atBlank (c :: cs) then some r
    else if inFlow && c = ':' && (cs.head?.any fun d => isFlowMark d || d = '?') then none
    else if c = ':' && atBlank cs then some r
    else if inFlow && isFlowMark c then some r
    else takePlainRun inFlow cs (c :: r)

def takePlain (inFlow : Bool) (indent : Nat) :
    (steps : Nat) → (text : List Char) → Gap → Place → Option (List Char × Place × Bool)
  | 0, text, g, p => some (text, p, g.broken)
  | s + 1, text, g, p =>
    if atDocumentMark p || p.at_ ['#'] then some (text, p, g.broken)
    else
      (takePlainRun inFlow p.rest []).bind fun run =>
        let text := if run.isEmpty then text else text ++ g.folded ++ run.reverse
        let g := if run.isEmpty then g else {}
        let q := p.skip run.length
        if !atBlank q.rest || q.rest.isEmpty then some (text, q, g.broken)
        else
          (takeGap indent (q.rest.length + 1) g q).bind fun (g, q) =>
            if !inFlow && q.column < indent then some (text, q, g.broken)
            else takePlain inFlow indent s text g q

/-! ### Quoted scalars -/

def takeQuoted (double : Bool) : (steps : Nat) → (text : List Char) → Place →
    Option (List Char × Place)
  | 0, _, _ => none
  | s + 1, text, p =>
    if atDocumentMark p || p.rest.isEmpty then none
    else
      (takeQuotedRun isBreak double (p.rest.length + 1) [] p).bind fun (run, q, stop) =>
        let text := text ++ run.reverse
        let go (g : Gap) (q : Place) : Option (List Char × Place) :=
          (takeGap 0 (q.rest.length + 1) g q).bind fun (g, q) =>
            takeQuoted double s (text ++ g.folded) q
        match stop with
        | .quote => some (text, q)
        | .space => go {} q
        | .joined => go { broken := true } (takeBreak q).2

/-! ### Block scalars -/

/-- Indentation and line breaks before a line of a block scalar.  Without an indentation yet, the
    deepest one seen is given back with the place. -/
def takeIndent (indent : Option Nat) : (steps : Nat) → (deepest : Nat) → (breaks : List Char) →
    Place → Option (Nat × List Char × Place)
  | 0, _, _, _ => none
  | s + 1, deepest, breaks, p =>
    let wanted := match indent with
      | none => p.rest.length
      | some i => i - p.column
    let n := min wanted (p.rest.takeWhile (· = ' ')).length
    let p := p.skip n
    let deepest := max deepest p.column
    let short := match indent with
      | none => true
      | some i => p.column < i
    if short && p.at_ ['\t'] then none
    else if p.rest.isEmpty || !atBreak p.rest then some (deepest, breaks, p)
    else
      let (b, q) := takeBreak p
      takeIndent indent s deepest (breaks ++ b) q

/-- The lines of a block scalar.  `lead` is the line break before the line, `breaks` the further
    ones, and `blankBefore` says whether the line before started with a blank. -/
def takeLines (literal : Bool) (indent : Nat) : (steps : Nat) → (text lead breaks : List Char) →
    (blankBefore : Bool) → Place → Option (List Char × List Char × List Char × Place)
  | 0, text, lead, breaks, _, p => some (text, lead, breaks, p)
  | s + 1, text, lead, breaks, blankBefore, p =>
    if p.column = indent ∧ !p.rest.isEmpty then
      let blank := p.rest.head?.any isSpaceOrTab
      let folds := !literal && lead == ['\n'] && !blankBefore && !blank
      let join := if folds then (if breaks.isEmpty then [' '] else []) else lead
      let (content, q) := p.takeWhile fun c => !isBreak c
      let (lead, q) := takeBreak q
      (takeIndent (some indent) (q.rest.length + 1) 0 [] q).bind fun (_, further, q) =>
        takeLines literal indent s (text ++ join ++ breaks ++ content) lead further blank q
    else some (text, lead, breaks, p)

/-- A block scalar after its indicator: its text, and the place after it.  `parent` is the
    indentation of the collection around it, if there is one. -/
def takeBlock (literal : Bool) (parent : Option Nat) (p : Place) : Option (List Char × Place) :=
  let (chomp, declared, n) := blockHeader p.rest
  let p := (p.skip n).skipWhile isSpaceOrTab
  let p := if p.at_ ['#'] then p.skipWhile fun c => !isBreak c else p
  if !atBreak p.rest then none
  else
    let p := (takeBreak p).2
    let steps := p.rest.length + 1
    let declared := declared.map fun i => parent.getD 0 + i
    (takeIndent declared steps 0 [] p).bind fun (deepest, breaks, p) =>
      let least := match parent with
        | none => 1
        | some i => i + 1
      let indent := declared.getD (max deepest least)
      (takeLines literal indent steps [] [] breaks false p).map fun (text, lead, breaks, p) =>
        let text := if chomp = .strip then text else text ++ lead
        (if chomp = .keep then text ++ breaks else text, p)

end Criteria.Yaml.V11
