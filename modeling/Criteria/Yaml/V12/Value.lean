/-
  Criteria/Yaml/V12/Value.lean
  ============================
  **The value of a YAML document.**  Values are built from the tokens of a
  stream that holds at most one document.  An alias stands for the value that
  was complete under its anchor's name; where there is none yet, and where a
  scalar does not fit its tag, the value is *unfit*.

  In a mapping keys and values take turns, but an unfit value is never a key: the
  value after it is.  No key stands twice in a mapping.
-/
import Criteria.Number.Reading
import Criteria.Yaml.V12.Stream

namespace Criteria.Yaml.V12

open Text

inductive Value where
  | null
  | bool (b : Bool)
  | int (i : Int)
  /-- A decimal, as it is written. -/
  | real (cs : List Char)
  | text (cs : List Char)
  | list (items : List Value)
  | table (pairs : List (Value × Value))
  | unfit

/-! ### Sameness -/

mutual

/-- Two values are written alike, whole numbers up to the way they are written. -/
def Value.same : Value → Value → Bool
  | .null, .null => true
  | .bool a, .bool b => a == b
  | .int a, .int b => a == b
  | .real a, .real b => a == b
  | .text a, .text b => a == b
  | .list a, .list b => sameItems a b
  | .table a, .table b => samePairs a b
  | .unfit, .unfit => true
  | _, _ => false

def sameItems : List Value → List Value → Bool
  | [], [] => true
  | a :: as, b :: bs => a.same b && sameItems as bs
  | _, _ => false

def samePairs : List (Value × Value) → List (Value × Value) → Bool
  | [], [] => true
  | (a, v) :: as, (b, w) :: bs => a.same b && v.same w && samePairs as bs
  | _, _ => false

end

def Value.isUnfit : Value → Bool
  | .unfit => true
  | _ => false

/-- The pairs of the values of a mapping in the order in which they stand.  `key` is the value that
    waits for its partner. -/
def pairUp (key : Value) (pairs : List (Value × Value)) : List Value → Option (List (Value × Value))
  | [] => some pairs
  | v :: vs =>
    if key.isUnfit then pairUp v pairs vs
    else if pairs.any fun p => p.1.same key then none
    else pairUp .unfit (pairs ++ [(key, v)]) vs

/-! ### Scalars -/

def readHeld (cs : List Char) : Option Int := (readInt cs).filter (fitsSigned 64)

def readBased (base : Nat) (cs : List Char) : Option Int :=
  let i := match cs with
    | '+' :: cs => (readBase base cs).map Int.ofNat
    | '-' :: cs => (readBase base cs).map fun n => -(n : Int)
    | cs => (readBase base cs).map Int.ofNat
  i.filter (fitsSigned 64)

/-- A whole number.  After a plus there may be a second sign. -/
def readWhole (cs : List Char) : Option Int :=
  let special := match cs with
    | '0' :: 'x' :: cs => readBased 16 cs
    | '0' :: 'o' :: cs => readBased 8 cs
    | '+' :: cs => readHeld cs
    | _ => none
  special <|> readHeld cs

def pointNames : List String :=
  [".inf", ".Inf", ".INF", "+.inf", "+.Inf", "+.INF", "-.inf", "-.Inf", "-.INF", ".nan", ".NAN"]

def isReal (cs : List Char) : Bool :=
  (pointNames.any fun n => n.toList == cs) || (Binary64.read? cs).isSome

def isNull (cs : List Char) : Bool := cs = ['~'] || cs = "null".toList

def readBool (cs : List Char) : Option Bool :=
  if cs = "true".toList then some true else if cs = "false".toList then some false else none

def plainValue (cs : List Char) : Value :=
  match readWhole cs, readBool cs with
  | some i, _ => .int i
  | none, some b => .bool b
  | none, none => if isNull cs then .null else if isReal cs then .real cs else .text cs

def schemaValue (suffix cs : List Char) : Value :=
  if suffix = "bool".toList then ((readBool cs).map Value.bool).getD .unfit
  else if suffix = "int".toList then ((readHeld cs).map Value.int).getD .unfit
  else if suffix = "float".toList then (if isReal cs then .real cs else .unfit)
  else if suffix = "null".toList then (if isNull cs then .null else .unfit)
  else .text cs

def scalarValue (tag : Option Tag) (plain : Bool) (cs : List Char) : Value :=
  match plain, tag with
  | false, _ => .text cs
  | true, none => plainValue cs
  | true, some t =>
    if t.handle = "tag:yaml.org,2002:".toList then schemaValue t.suffix cs else .text cs

/-! ### Building -/

/-- The tokens that are left, the names of anchors with their numbers, the latest first, how many
    numbers there are, and the complete values under their numbers. -/
structure Rest where
  tokens : List Token
  names : List (List Char × Nat) := []
  numbers : Nat := 0
  complete : List (Nat × Value) := []

structure Properties where
  anchor : Option (List Char) := none
  tag : Option Tag := none

namespace Properties

def take : List Token → Properties × List Token
  | .anchor a :: .tag t :: ts => ({ anchor := some a, tag := some t }, ts)
  | .tag t :: .anchor a :: ts => ({ anchor := some a, tag := some t }, ts)
  | .anchor a :: ts => ({ anchor := some a }, ts)
  | .tag t :: ts => ({ tag := some t }, ts)
  | ts => ({}, ts)

def isEmpty (p : Properties) : Bool := p.anchor.isNone && p.tag.isNone

end Properties

namespace Rest

/-- The start of a value: the name of its anchor gets the next number. -/
def start (r : Rest) (p : Properties) (ts : List Token) : Rest :=
  match p.anchor with
  | none => { r with tokens := ts }
  | some a =>
    { r with tokens := ts, names := (a, r.numbers) :: r.names, numbers := r.numbers + 1 }

def finish (r : Rest) (p : Properties) (number : Nat) (v : Value) : Value × Rest :=
  match p.anchor with
  | none => (v, r)
  | some _ => (v, { r with complete := (number, v) :: r.complete })

def aliased? (r : Rest) (name : List Char) : Option Value :=
  (r.names.lookup name).map fun number => (r.complete.lookup number).getD .unfit

end Rest

def endsBlockItem : List Token → Bool
  | .blockEntry :: _ | .blockEnd :: _ | [] => true
  | _ => false

def endsBlockPart : List Token → Bool
  | .key :: _ | .value :: _ | .blockEnd :: _ | [] => true
  | _ => false

def endsPlainItem : List Token → Bool
  | .blockEntry :: _ | .key :: _ | .value :: _ | .blockEnd :: _ | [] => true
  | _ => false

def endsFlowPart (close : Token) : List Token → Bool
  | t :: _ => t == .flowEntry || t == close
  | [] => true

mutual

/-- A value.  Block collections stand only where `block` says so; a sequence whose items stand no
    further in than the key before it only where `level` does. -/
def Value.take (hs : Handles) (block level : Bool) : (steps : Nat) → Rest → Option (Value × Rest)
  | 0, _ => none
  | s + 1, r =>
    match r.tokens with
    | .alias a :: ts => (r.aliased? a).map fun v => (v, { r with tokens := ts })
    | _ =>
      let (p, ts) := Properties.take r.tokens
      let tag := match p.tag with
        | none => some none
        | some t => (t.resolved? hs).map some
      tag.bind fun tag =>
        let list (items : Option (List Value × Rest)) : Option (Value × Rest) :=
          items.map fun (items, q) => q.finish p r.numbers (.list items)
        let table (values : Option (List Value × Rest)) : Option (Value × Rest) :=
          values.bind fun (values, q) => (pairUp .unfit [] values).map fun pairs =>
            q.finish p r.numbers (.table pairs)
        let scalar (plain : Bool) (cs : List Char) (ts : List Token) : Option (Value × Rest) :=
          some ((r.start p ts).finish p r.numbers (scalarValue tag plain cs))
        match ts, block, level with
        | .scalar plain cs :: ts, _, _ => scalar plain cs ts
        | .flowSequenceStart :: ts, _, _ => list (takeFlowItems hs s true [] (r.start p ts))
        | .flowMappingStart :: ts, _, _ => table (takeFlowPairs hs s true [] (r.start p ts))
        | .blockSequenceStart :: ts, true, _ => list (takeItems hs s [] (r.start p ts))
        | .blockMappingStart :: ts, true, _ => table (takePairs hs s [] (r.start p ts))
        | .blockEntry :: _, _, true => list (takeLevelItems hs s [] (r.start p ts))
        | ts, _, _ => if p.isEmpty then none else scalar true [] ts

def takeItems (hs : Handles) : (steps : Nat) → (reversed : List Value) → Rest →
    Option (List Value × Rest)
  | 0, _, _ => none
  | s + 1, items, r =>
    match r.tokens with
    | .blockEntry :: ts =>
      if endsBlockItem ts then takeItems hs s (.null :: items) { r with tokens := ts }
      else (Value.take hs true false s { r with tokens := ts }).bind fun (v, r) =>
        takeItems hs s (v :: items) r
    | .blockEnd :: ts => some (items.reverse, { r with tokens := ts })
    | _ => none

/-- The items of a sequence that stands as far in as the key before it. -/
def takeLevelItems (hs : Handles) : (steps : Nat) → (reversed : List Value) → Rest →
    Option (List Value × Rest)
  | 0, _, _ => none
  | s + 1, items, r =>
    match r.tokens with
    | .blockEntry :: ts =>
      if endsPlainItem ts then takeLevelItems hs s (.null :: items) { r with tokens := ts }
      else (Value.take hs true false s { r with tokens := ts }).bind fun (v, r) =>
        takeLevelItems hs s (v :: items) r
    | _ => some (items.reverse, r)

/-- The keys and values of a block mapping, up to its end.  A key may be missing. -/
def takePairs (hs : Handles) : (steps : Nat) → (reversed : List Value) → Rest →
    Option (List Value × Rest)
  | 0, _, _ => none
  | s + 1, values, r =>
    let key := match r.tokens with
      | .key :: ts =>
        some (if endsBlockPart ts then some (Value.null, { r with tokens := ts })
          else Value.take hs true true s { r with tokens := ts })
      | .value :: _ => some (some (.null, r))
      | _ => none
    match key, r.tokens with
    | some key, _ =>
      key.bind fun (k, r) => (takeBlockValue hs s r).bind fun (v, r) =>
        takePairs hs s (v :: k :: values) r
    | none, .blockEnd :: ts => some (values.reverse, { r with tokens := ts })
    | none, _ => none

def takeBlockValue (hs : Handles) : (steps : Nat) → Rest → Option (Value × Rest)
  | 0, _ => none
  | s + 1, r =>
    match r.tokens with
    | .value :: ts =>
      if endsBlockPart ts then some (.null, { r with tokens := ts })
      else Value.take hs true true s { r with tokens := ts }
    | _ => some (.null, r)

/-- The items of a flow sequence, up to its end.  A pair among them is a table of its own; where its
    key is missing, the token in the key's place is passed over. -/
def takeFlowItems (hs : Handles) : (steps : Nat) → (first : Bool) → (reversed : List Value) →
    Rest → Option (List Value × Rest)
  | 0, _, _, _ => none
  | s + 1, first, items, r =>
    match r.tokens with
    | .flowSequenceEnd :: ts => some (items.reverse, { r with tokens := ts })
    | ts =>
      let entry := if first then some ts else match ts with
        | .flowEntry :: ts => some ts
        | _ => none
      entry.bind fun ts =>
        match ts with
        | .flowSequenceEnd :: ts => some (items.reverse, { r with tokens := ts })
        | .key :: ts =>
          let k := if ts.head? == some .value || endsFlowPart .flowSequenceEnd ts then
              some (Value.null, { r with tokens := ts.drop 1 })
            else Value.take hs false false s { r with tokens := ts }
          k.bind fun (k, r) => (takeFlowValue hs .flowSequenceEnd s r).bind fun (v, r) =>
            (pairUp .unfit [] [k, v]).bind fun pairs =>
              takeFlowItems hs s false (.table pairs :: items) r
        | ts => (Value.take hs false false s { r with tokens := ts }).bind fun (v, r) =>
            takeFlowItems hs s false (v :: items) r

/-- The keys and values of a flow mapping, up to its end.  A key may be missing; one without its
    indicator has no value. -/
def takeFlowPairs (hs : Handles) : (steps : Nat) → (first : Bool) → (reversed : List Value) →
    Rest → Option (List Value × Rest)
  | 0, _, _, _ => none
  | s + 1, first, values, r =>
    match r.tokens with
    | .flowMappingEnd :: ts => some (values.reverse, { r with tokens := ts })
    | ts =>
      let entry := if first then some ts else match ts with
        | .flowEntry :: ts => some ts
        | _ => none
      entry.bind fun ts =>
        let partner (k : Option (Value × Rest)) : Option (List Value × Rest) :=
          k.bind fun (k, r) => (takeFlowValue hs .flowMappingEnd s r).bind fun (v, r) =>
            takeFlowPairs hs s false (v :: k :: values) r
        match ts with
        | .flowMappingEnd :: ts => some (values.reverse, { r with tokens := ts })
        | .key :: ts =>
          partner (if ts.head? == some .value || endsFlowPart .flowMappingEnd ts then
              some (.null, { r with tokens := ts })
            else Value.take hs false false s { r with tokens := ts })
        | .value :: _ => partner (some (.null, { r with tokens := ts }))
        | ts => (Value.take hs false false s { r with tokens := ts }).bind fun (v, r) =>
            takeFlowPairs hs s false (.null :: v :: values) r

def takeFlowValue (hs : Handles) (close : Token) : (steps : Nat) → Rest → Option (Value × Rest)
  | 0, _ => none
  | s + 1, r =>
    match r.tokens with
    | .value :: ts =>
      if endsFlowPart close ts then some (.null, { r with tokens := ts })
      else Value.take hs false false s { r with tokens := ts }
    | _ => some (.null, r)

end

/-! ### Documents -/

/-- The handles that directives at the front of the tokens leave: those of the last one.  There is
    one version at most. -/
def takeHandles (version : Bool) (hs : Handles) : List Token → Option (Handles × List Token)
  | .version :: ts => if version then none else takeHandles true [] ts
  | .handle name start :: ts => takeHandles version [(name, start)] ts
  | ts => some (hs, ts)

def Value.takeDocument? (hs : Handles) (ts : List Token) : Option Value :=
  (Value.take hs true false (4 * ts.length + 4) { tokens := ts }).bind fun (v, r) =>
    if r.tokens.all (· == .documentEnd) then some v else none

/-- What the one document of a stream holds; nothing, if the stream has no document. -/
def Value.ofTokens? (ts : List Token) : Option (Option Value) :=
  match ts.dropWhile (· == .documentEnd) with
  | [] => some none
  | ts =>
    (takeHandles false [] ts).bind fun
      | (hs, .documentStart :: ts) =>
        if ts.all (· == .documentEnd) then some (some .null) else (takeDocument? hs ts).map some
      | (hs, rest) =>
        if rest.length = ts.length then (takeDocument? hs ts).map some else none

/-- What the one document of a text holds; nothing, if the text has no document. -/
def Value.read? (cs : List Char) : Option (Option Value) := (tokens cs).bind Value.ofTokens?

end Criteria.Yaml.V12
