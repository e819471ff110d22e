/-
  Criteria/Proofs/Search/Selection.lean
  =====================================
  **What a search document selects.**  `selects` reads a rendered document as the
  engine does, from its JSON alone: `term` is equality, `prefix` is a front part,
  `wildcard` is a match of the whole value, `exists` asks for a value, and `bool`
  combines other documents.  A leaf holds when some value of the field passes it,
  so a field without values passes no leaf.  The body of a range is read by a
  parameter, since date arithmetic is the engine's own.

  The lemmas after it say what the document of each query selects, in terms of
  the documents inside it.
-/
import Criteria.Proofs.Text.Wildcard
import Criteria.Search.Rendering

namespace Criteria.Search

/-! ### The reading of a document -/

/-- What an engine has of a record, and how it reads a range. -/
structure Indexed where
  /-- The values of a field; none if the field is missing. -/
  values : String → List Value
  inRange : Members → Value → Bool

/-- The pattern language of `wildcard`. -/
def wildcardLanguage : Wildcard.Language := ⟨'*', '?', some '\\'⟩

/-- Whether a value passes a leaf. -/
def leafHolds (test : String) : Value → Json → Bool
  | .text s, .string t =>
    if test = "term" then s == t
    else if test = "prefix" then t.toList.isPrefixOf s.toList
    else if test = "wildcard" then Wildcard.matches? (wildcardLanguage.read t.toList) s.toList
    else false
  | .number x, .float y => test == "term" && x.same y
  | .time d, .string t => test == "term" && String.ofList d.text == t
  | _, _ => false

/-- Whether a record passes a test of one field. -/
def fieldHolds (x : Indexed) (test : String) (body : Members) : Bool :=
  if test = "exists" then
    match body with
    | [("field", .string field)] => !(x.values field).isEmpty
    | _ => false
  else
    match body with
    | [(field, .object inner)] =>
      if test = "range" then (x.values field).any (x.inRange inner)
      else
        match inner with
        | [("value", v)] => (x.values field).any fun w => leafHolds test w v
        | _ => false
    | _ => false

/-- The number of queries of which at least so many have to hold. -/
def minimum (members : Members) : Nat :=
  match members.lookup "minimum_should_match" with
  | some (.int i) => i.toNat
  | _ => 1

mutual

/-- Whether a document selects a record. -/
def selects (x : Indexed) : Json → Bool
  | .object [("bool", .object members)] => clausesHold x (minimum members) members
  | .object [(test, .object body)] => fieldHolds x test body
  | _ => false

/-- Whether every clause of a combination holds. -/
def clausesHold (x : Indexed) (least : Nat) : List (String × Json) → Bool
  | [] => true
  | (k, .array queries) :: ms =>
    (if k = "must_not" then selected x queries == 0
      else if k = "should" then least ≤ selected x queries
      else false) && clausesHold x least ms
  | (k, _) :: ms => k == "minimum_should_match" && clausesHold x least ms

/-- How many of some documents select a record. -/
def selected (x : Indexed) : List Json → Nat
  | [] => 0
  | q :: qs => (if selects x q then 1 else 0) + selected x qs

end

/-! ### The documents of queries -/

variable (x : Indexed)

theorem selects_leaf {test : String} (htest : test ≠ "bool" ∧ test ≠ "exists" ∧ test ≠ "range")
    (field : String) (v : Json) :
    selects x (leaf test field v) = (x.values field).any fun w => leafHolds test w v := by
  simp [leaf, Json.keyed, selects, fieldHolds, htest]

theorem selected_documents (qs : List Query) :
    selected x (documents qs) = qs.countP fun q => selects x q.toJson := by
  induction qs with
  | nil => rfl
  | cons q qs ih =>
    rw [documents, selected, ih, List.countP_cons, Nat.add_comm]

/-- A denial selects exactly what none of its queries selects. -/
theorem selects_noneOf (qs : List Query) :
    selects x (Query.noneOf qs).toJson = !qs.any fun q => selects x q.toJson := by
  have hnone : (qs.countP fun q => selects x q.toJson) = 0 ↔
      ¬ (qs.any fun q => selects x q.toJson) = true := by
    simp [List.countP_eq_zero]
  rw [Bool.eq_iff_iff, Bool.not_eq_true', ← Bool.not_eq_true, ← hnone, ← selected_documents]
  simp [Query.toJson, Json.keyed, selects, clausesHold]

theorem selects_anyOf (qs : List Query) :
    selects x (Query.anyOf qs).toJson = qs.any fun q => selects x q.toJson := by
  have hsome : 1 ≤ (qs.countP fun q => selects x q.toJson) ↔
      (qs.any fun q => selects x q.toJson) = true := by
    rw [Nat.one_le_iff_ne_zero, ← Nat.pos_iff_ne_zero, List.countP_pos_iff, List.any_eq_true]
  rw [Bool.eq_iff_iff, ← hsome, ← selected_documents]
  simp [Query.toJson, Json.keyed, selects, clausesHold, minimum]

/-- A leaf or its denial. -/
theorem selects_signedLeaf (negated : Bool) (q : Query) :
    selects x (signedLeaf negated q).toJson = (selects x q.toJson != negated) := by
  cases negated with
  | false => simp [signedLeaf]
  | true => simp [signedLeaf, selects_noneOf]

/-! ### Leaves for texts -/

/-- **An escaped text stands for itself in a wildcard**, whatever follows it. -/
theorem read_escapedWildcard (raw rest : List Char) :
    wildcardLanguage.read (raw.flatMap escapeWildcard ++ rest) =
      raw.map .exactly ++ wildcardLanguage.read rest := by
  refine Wildcard.Language.read_escaped wildcardLanguage rfl escapeWildcard (fun c => ?_) raw rest
  by_cases hc : c = '*' ∨ c = '?' ∨ c = '\\'
  · left
    rw [escapeWildcard, if_pos hc]
  · right
    rw [escapeWildcard, if_neg hc]
    simp only [not_or] at hc
    exact ⟨rfl, hc.1, hc.2.1, fun heq => hc.2.2 (Option.some.inj heq).symm⟩

theorem read_many (rest : List Char) :
    wildcardLanguage.read ('*' :: rest) = .anyText :: wildcardLanguage.read rest := by
  have hescape : wildcardLanguage.escape ≠ some '*' := by decide
  exact (Wildcard.Language.read_cons wildcardLanguage hescape rest).trans rfl

/-- **The leaf for a relation of texts tests that relation**, on whatever texts the field has. -/
theorem selects_leafOf (field : String) (kind : MatchKind) (raw : String) {texts : List String}
    (hvalues : x.values field = texts.map .text) :
    selects x (leafOf field kind raw).toJson = texts.any fun s => kind.holds s raw := by
  have hleaf : ∀ test v, test ≠ "bool" ∧ test ≠ "exists" ∧ test ≠ "range" →
      (∀ s, leafHolds test (.text s) v = kind.holds s raw) →
      selects x (leaf test field v) = texts.any fun s => kind.holds s raw := by
    intro test v htest hholds
    rw [selects_leaf x htest, hvalues, List.any_map]
    exact congrArg texts.any (funext hholds)
  cases kind with
  | exact =>
    refine hleaf "term" _ (by decide) fun s => ?_
    rw [Bool.eq_iff_iff]
    simp [leafHolds, valueJson, MatchKind.holds, String.toList_inj]
  | leading => exact hleaf "prefix" _ (by decide) fun s => rfl
  | trailing =>
    refine hleaf "wildcard" _ (by decide) fun s => ?_
    have hread : wildcardLanguage.read ('*' :: raw.toList.flatMap escapeWildcard) =
        Wildcard.symbolsFor .trailing raw.toList := by
      have hbody := read_escapedWildcard raw.toList []
      rw [List.append_nil] at hbody
      rw [read_many, hbody, Wildcard.Language.read, List.append_nil, Wildcard.symbolsFor]
    simp [leafHolds, String.toList_ofList, hread, Wildcard.matches?_symbolsFor, MatchKind.holds]
  | within =>
    refine hleaf "wildcard" _ (by decide) fun s => ?_
    have hread : wildcardLanguage.read ('*' :: (raw.toList.flatMap escapeWildcard ++ ['*'])) =
        Wildcard.symbolsFor .within raw.toList := by
      rw [read_many, read_escapedWildcard, read_many, Wildcard.Language.read, Wildcard.symbolsFor]
    simp [leafHolds, String.toList_ofList, hread, Wildcard.matches?_symbolsFor, MatchKind.holds]

end Criteria.Search
