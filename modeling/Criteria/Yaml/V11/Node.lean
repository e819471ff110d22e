/-
  Criteria/Yaml/V11/Node.lean
  ===========================
  **The tree of a YAML document.**  Nodes are built from the tokens of a stream
  that holds at most one document.

  A node that is anchored gets a number, which is how many different names have
  been given to nodes before it.  An alias stands for the number of its name,
  and of the nodes with that number the one that starts last is meant.
-/
import Criteria.Yaml.V11.Stream

namespace Criteria.Yaml.V11

inductive Node where
  /-- A scalar, and whether it stands plain. -/
  | scalar (tag : Option Tag) (plain : Bool) (cs : List Char)
  | sequence (tag : Option Tag) (items : List Node)
  | mapping (tag : Option Tag) (pairs : List (Node × Node))
  /-- The node of a number. -/
  | alias (number : Nat)

def Node.empty : Node := .scalar none true []

/-- A document: its node, and the anchored nodes with their numbers, in the order in which they
    start. -/
structure Document where
  root : Node
  anchored : Array (Nat × Node) := #[]

def Document.follow (d : Document) : Node → Node
  | .alias number => ((d.anchored.toList.reverse.lookup number).getD .empty)
  | n => n

/-! ### Properties -/

structure Properties where
  anchor : Option (List Char) := none
  tag : Option (List Char × Tag) := none

namespace Properties

def take : List Token → Properties × List Token
  | .anchor a :: .tag h s :: ts => ({ anchor := some a, tag := some (h, s) }, ts)
  | .tag h s :: .anchor a :: ts => ({ anchor := some a, tag := some (h, s) }, ts)
  | .anchor a :: ts => ({ anchor := some a }, ts)
  | .tag h s :: ts => ({ tag := some (h, s) }, ts)
  | ts => ({}, ts)

def isEmpty (p : Properties) : Bool := p.anchor.isNone && p.tag.isNone

end Properties

abbrev Handles := List (List Char × Tag)

def defaultHandles : Handles :=
  [("!".toList, Tag.ofChars "!".toList), ("!!".toList, Tag.ofChars "tag:yaml.org,2002:".toList)]

def fullTag (hs : Handles) : Option (List Char × Tag) → Option (Option Tag)
  | none => some none
  | some ([], s) => some (some s)
  | some (h, s) => (hs.lookup h).map fun start => some (start ++ s)

/-! ### Building -/

/-- The tokens that are left, the names of anchors with their numbers, the latest first, and the
    anchored nodes. -/
structure Rest where
  tokens : List Token
  names : List (List Char × Nat) := []
  anchored : Array (Nat × Node) := #[]

namespace Rest

def nameCount (r : Rest) : Nat := (r.names.map Prod.fst).eraseDups.length

/-- The start of a node: its anchor gets its number, and a place is kept for the node. -/
def start (r : Rest) (p : Properties) (ts : List Token) : Rest :=
  match p.anchor with
  | none => { r with tokens := ts }
  | some a =>
    let number := r.nameCount
    { tokens := ts
      names := (a, number) :: r.names
      anchored := r.anchored.push (number, .empty) }

def finish (r : Rest) (p : Properties) (place : Nat) (n : Node) : Node × Rest :=
  match p.anchor with
  | none => (n, r)
  | some _ => (n, { r with anchored := r.anchored.modify place fun e => (e.1, n) })

end Rest

def endsBlockItem : List Token → Bool
  | .blockEntry :: _ | .blockEnd :: _ | [] => true
  | _ => false

def endsBlockPart : List Token → Bool
  | .key :: _ | .value :: _ | .blockEnd :: _ | [] => true
  | _ => false

def endsPlainItem : List Token → Bool
  | .blockEntry :: _ | .key :: _ | .value :: _ | .blockEnd :: _ | [] => true
  | _ => false

def endsFlowPart (close : Token) : List Token → Bool
  | t :: _ => t == .flowEntry || t == close
  | [] => true

mutual

/-- A node.  Block collections stand only where `block` says so; a sequence whose items stand no
    further in than the key before it only where `level` does. -/
def Node.take (hs : Handles) (block level : Bool) : (steps : Nat) → Rest → Option (Node × Rest)
  | 0, _ => none
  | s + 1, r =>
    match r.tokens with
    | .alias a :: ts => (r.names.lookup a).map fun i => (.alias i, { r with tokens := ts })
    | _ =>
      let (p, ts) := Properties.take r.tokens
      (fullTag hs p.tag).bind fun tag =>
        let place := r.anchored.size
        let sequence (items : Option (List Node × Rest)) : Option (Node × Rest) :=
          items.map fun (items, r) => r.finish p place (.sequence tag items)
        let mapping (pairs : Option (List (Node × Node) × Rest)) : Option (Node × Rest) :=
          pairs.map fun (pairs, r) => r.finish p place (.mapping tag pairs)
        match ts, block, level with
        | .scalar plain cs :: ts, _, _ =>
          some ((r.start p ts).finish p place (.scalar tag plain cs))
        | .flowSequenceStart :: ts, _, _ => sequence (takeFlowItems hs s true [] (r.start p ts))
        | .flowMappingStart :: ts, _, _ => mapping (takeFlowPairs hs s true [] (r.start p ts))
        | .blockSequenceStart :: ts, true, _ => sequence (takeItems hs s [] (r.start p ts))
        | .blockMappingStart :: ts, true, _ => mapping (takePairs hs s [] (r.start p ts))
        | .blockEntry :: _, _, true => sequence (takeLevelItems hs s [] (r.start p ts))
        | ts, _, _ =>
          if p.isEmpty then none
          else some ((r.start p ts).finish p place (.scalar tag true []))

def takeItems (hs : Handles) : (steps : Nat) → (reversed : List Node) → Rest →
    Option (List Node × Rest)
  | 0, _, _ => none
  | s + 1, items, r =>
    match r.tokens with
    | .blockEntry :: ts =>
      if endsBlockItem ts then takeItems hs s (.empty :: items) { r with tokens := ts }
      else (Node.take hs true false s { r with tokens := ts }).bind fun (n, r) =>
        takeItems hs s (n :: items) r
    | .blockEnd :: ts => some (items.reverse, { r with tokens := ts })
    | _ => none

/-- The items of a sequence that stands as far in as the key before it. -/
def takeLevelItems (hs : Handles) : (steps : Nat) → (reversed : List Node) → Rest →
    Option (List Node × Rest)
  | 0, _, _ => none
  | s + 1, items, r =>
    match r.tokens with
    | .blockEntry :: ts =>
      if endsPlainItem ts then takeLevelItems hs s (.empty :: items) { r with tokens := ts }
      else (Node.take hs true false s { r with tokens := ts }).bind fun (n, r) =>
        takeLevelItems hs s (n :: items) r
    | _ => some (items.reverse, r)

def takePairs (hs : Handles) : (steps : Nat) → (reversed : List (Node × Node)) → Rest →
    Option (List (Node × Node) × Rest)
  | 0, _, _ => none
  | s + 1, pairs, r =>
    match r.tokens with
    | .key :: ts =>
      let k := if endsBlockPart ts then some (Node.empty, { r with tokens := ts })
        else Node.take hs true true s { r with tokens := ts }
      k.bind fun (k, r) => (takeBlockValue hs s r).bind fun (v, r) =>
        takePairs hs s ((k, v) :: pairs) r
    | .blockEnd :: ts => some (pairs.reverse, { r with tokens := ts })
    | _ => none

def takeBlockValue (hs : Handles) : (steps : Nat) → Rest → Option (Node × Rest)
  | 0, _ => none
  | s + 1, r =>
    match r.tokens with
    | .value :: ts =>
      if endsBlockPart ts then some (.empty, { r with tokens := ts })
      else Node.take hs true true s { r with tokens := ts }
    | _ => some (.empty, r)

/-- The items of a flow sequence, up to its end.  A pair among them is a mapping of its own; where
    its key is missing, the token in the key's place is passed over. -/
def takeFlowItems (hs : Handles) : (steps : Nat) → (first : Bool) → (reversed : List Node) → Rest →
    Option (List Node × Rest)
  | 0, _, _, _ => none
  | s + 1, first, items, r =>
    match r.tokens with
    | .flowSequenceEnd :: ts => some (items.reverse, { r with tokens := ts })
    | ts =>
      let entry := if first then some ts else match ts with
        | .flowEntry :: ts => some ts
        | _ => none
      entry.bind fun ts =>
        match ts with
        | .flowSequenceEnd :: ts => some (items.reverse, { r with tokens := ts })
        | .key :: ts =>
          let k := if ts.head? == some .value || endsFlowPart .flowSequenceEnd ts then
              some (Node.empty, { r with tokens := ts.drop 1 })
            else Node.take hs false false s { r with tokens := ts }
          k.bind fun (k, r) => (takeFlowValue hs .flowSequenceEnd s r).bind fun (v, r) =>
            takeFlowItems hs s false (.mapping none [(k, v)] :: items) r
        | ts => (Node.take hs false false s { r with tokens := ts }).bind fun (n, r) =>
            takeFlowItems hs s false (n :: items) r

/-- The pairs of a flow mapping, up to its end.  A node without a key's indicator has no value. -/
def takeFlowPairs (hs : Handles) : (steps : Nat) → (first : Bool) →
    (reversed : List (Node × Node)) → Rest → Option (List (Node × Node) × Rest)
  | 0, _, _, _ => none
  | s + 1, first, pairs, r =>
    match r.tokens with
    | .flowMappingEnd :: ts => some (pairs.reverse, { r with tokens := ts })
    | ts =>
      let entry := if first then some ts else match ts with
        | .flowEntry :: ts => some ts
        | _ => none
      entry.bind fun ts =>
        match ts with
        | .flowMappingEnd :: ts => some (pairs.reverse, { r with tokens := ts })
        | .key :: ts =>
          let k := if ts.head? == some .value || endsFlowPart .flowMappingEnd ts then
              some (Node.empty, { r with tokens := ts })
            else Node.take hs false false s { r with tokens := ts }
          k.bind fun (k, r) => (takeFlowValue hs .flowMappingEnd s r).bind fun (v, r) =>
            takeFlowPairs hs s false ((k, v) :: pairs) r
        | ts => (Node.take hs false false s { r with tokens := ts }).bind fun (n, r) =>
            takeFlowPairs hs s false ((n, .empty) :: pairs) r

def takeFlowValue (hs : Handles) (close : Token) : (steps : Nat) → Rest → Option (Node × Rest)
  | 0, _ => none
  | s + 1, r =>
    match r.tokens with
    | .value :: ts =>
      if endsFlowPart close ts then some (.empty, { r with tokens := ts })
      else Node.take hs false false s { r with tokens := ts }
    | _ => some (.empty, r)

end

/-! ### Documents -/

structure Preamble where
  version : Bool := false
  handles : Handles := []

def isVersion (major minor : Nat) : Bool := major = 1 && (minor = 1 || minor = 2)

/-- The directives at the front of the tokens: one version at most, each handle once. -/
def Preamble.take (p : Preamble) : List Token → Option (Preamble × List Token)
  | .version major minor :: ts =>
    if p.version || !isVersion major minor then none
    else Preamble.take { p with version := true } ts
  | .handle name start :: ts =>
    if (p.handles.lookup name).isSome then none
    else Preamble.take { p with handles := p.handles ++ [(name, start)] } ts
  | ts => some (p, ts)

def Document.take? (hs : Handles) (ts : List Token) : Option Document :=
  (Node.take hs true false (4 * ts.length + 4) { tokens := ts }).bind fun (n, r) =>
    if r.tokens.all (· == .documentEnd) then some { root := n, anchored := r.anchored } else none

/-- The document of tokens after its start; it may be empty. -/
def Document.takeStarted? (hs : Handles) (ts : List Token) : Option Document :=
  if ts.all (· == .documentEnd) then some { root := .empty } else Document.take? hs ts

/-- What the one document of a stream holds; nothing, if the stream has no document. -/
def Document.ofTokens? (ts : List Token) : Option (Option Document) :=
  match ts with
  | [] => some none
  | .documentStart :: _ | .version _ _ :: _ | .handle _ _ :: _ =>
    (Preamble.take {} ts).bind fun
      | (p, .documentStart :: ts) =>
        (Document.takeStarted? (p.handles ++ defaultHandles) ts).map some
      | _ => none
  | ts => (Document.take? defaultHandles ts).map some

/-- What the one document of a text holds; nothing, if the text has no document. -/
def Document.read? (cs : List Char) : Option (Option Document) :=
  (tokens cs).bind Document.ofTokens?

end Criteria.Yaml.V11
