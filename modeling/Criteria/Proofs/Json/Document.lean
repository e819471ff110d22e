/-
  Criteria/Proofs/Json/Document.lean
  ==================================
  **The document of a written value.**  The reader goes over the tokens with a stack
  of the brackets that are open.  Over the tokens of a value it comes from where a
  value may stand to where one has been read, whatever the stack holds and whatever
  follows (`run_written`); the brackets of the value itself are opened and closed on
  the way.  So the compact text of a value is read as one document (`read?_chars`),
  which says what the value says, its numbers as they are written.
-/
import Criteria.Json.Document
import Criteria.Proofs.Json.Token

namespace Criteria

namespace Json

/-! ### Documents of values -/

mutual

/-- The document of a value; none if a number in it is not written as one. -/
def doc? : Json → Option Doc
  | null => some .null
  | bool b => some (.bool b)
  | int i => Doc.ofWord? (Text.intDigits i)
  | float x => Doc.ofWord? (x.text .marked)
  | string s => some (.string (some s))
  | array items => (itemDocs? items).map .array
  | object members => (memberDocs? members).map .object

def itemDocs? : List Json → Option (List Doc)
  | [] => some []
  | v :: vs => v.doc?.bind fun d => (itemDocs? vs).map (d :: ·)

def memberDocs? : List (String × Json) → Option (List (Option String × Doc))
  | [] => some []
  | (k, v) :: ms => v.doc?.bind fun d => (memberDocs? ms).map ((some k, d) :: ·)

end

theorem memberDocs?_append (ms ns : List (String × Json)) :
    memberDocs? (ms ++ ns) =
      (memberDocs? ms).bind fun ds => (memberDocs? ns).map (ds ++ ·) := by
  induction ms with
  | nil => simp [memberDocs?]
  | cons m ms ih =>
    obtain ⟨k, v⟩ := m
    simp only [List.cons_append, memberDocs?, ih]
    cases v.doc? with
    | none => rfl
    | some d =>
      cases memberDocs? ms with
      | none => rfl
      | some ds => simp [Function.comp_def]

/-! ### Runs over the tokens -/

theorem run_cons (s : State) (t : Token) (ts : List Token) :
    s.run (t :: ts) = (s.step t).bind fun s => s.run ts := rfl

/-- The tokens of a value do not start with the end of an array, so what may be the first item is
    read as any value is. -/
theorem run_item (v : Json) (fs : List Frame) (ts : List Token) :
    (State.item fs).run (v.written ++ ts) =
      (State.value (.array [] :: fs)).run (v.written ++ ts) := by
  cases v with
  | bool b => cases b <;> rfl
  | null | int i | float x | string s | array items | object members => rfl

theorem run_word (w : List Char) (fs : List Frame) (ts : List Token) :
    (State.value fs).run (.word w :: ts) =
      (Doc.ofWord? w).bind fun d => (State.after fs d).run ts := by
  rw [run_cons, State.step, startValue, Option.bind_map]
  rfl

-- By recursion on the value, with the stack and the tokens behind it left open: the items of an
-- array are read on a stack that is higher by the array.
mutual

/-- **Over the tokens of a value its document is read.** -/
theorem run_written (v : Json) (fs : List Frame) (ts : List Token) :
    (State.value fs).run (v.written ++ ts) = v.doc?.bind fun d => (State.after fs d).run ts := by
  cases v with
  | null => rfl
  | bool b => cases b <;> rfl
  | int i => exact run_word (Text.intDigits i) fs ts
  | float x => exact run_word (x.text .marked) fs ts
  | string s => rfl
  | array items =>
    match items with
    | [] => rfl
    | v :: vs =>
      -- before the first item the end of the array would do as well, and is not what follows
      have hfirst : (State.item fs).run (writtenItems (v :: vs) ++ .arrayEnd :: ts) =
          (State.value (.array [] :: fs)).run (writtenItems (v :: vs) ++ .arrayEnd :: ts) := by
        cases vs with
        | nil => exact run_item v fs _
        | cons w ws =>
          rw [writtenItems, List.append_assoc]
          · exact run_item v fs _
          · simp
      rw [written, List.cons_append, List.append_assoc, List.singleton_append, run_cons]
      change (State.item fs).run _ = _
      rw [hfirst, run_writtenItems (v :: vs) (List.cons_ne_nil v vs) [] fs ts, doc?,
        Option.bind_map]
      rfl
  | object members =>
    match members with
    | [] => rfl
    | (k, v) :: ms =>
      have hfirst : (State.member fs).run (writtenMembers ((k, v) :: ms) ++ .objectEnd :: ts) =
          (State.key [] fs).run (writtenMembers ((k, v) :: ms) ++ .objectEnd :: ts) := by
        cases ms <;> rfl
      rw [written, List.cons_append, List.append_assoc, List.singleton_append, run_cons]
      change (State.member fs).run _ = _
      rw [hfirst, run_writtenMembers ((k, v) :: ms) (List.cons_ne_nil (k, v) ms) [] fs ts, doc?,
        Option.bind_map]
      rfl

/-- Over the items that an array still has, and its end. -/
theorem run_writtenItems (vs : List Json) (hne : vs ≠ []) (ds : List Doc) (fs : List Frame)
    (ts : List Token) :
    (State.value (.array ds :: fs)).run (writtenItems vs ++ .arrayEnd :: ts) =
      (itemDocs? vs).bind fun es => (State.after fs (.array (ds.reverse ++ es))).run ts := by
  match vs with
  | [] => exact absurd rfl hne
  | [v] =>
    rw [writtenItems, run_written v]
    cases hd : v.doc? with
    | none => simp [itemDocs?, hd]
    | some d => simp [itemDocs?, hd, run_cons, State.step]
  | v :: w :: ws =>
    rw [writtenItems, List.append_assoc, run_written v]
    · cases hd : v.doc? with
      | none => simp [itemDocs?, hd]
      | some d =>
        have hdocs : itemDocs? (v :: w :: ws) = (itemDocs? (w :: ws)).map (d :: ·) := by
          rw [itemDocs?, hd, Option.bind_some]
        rw [Option.bind_some, List.cons_append, run_cons]
        change (State.value (.array (d :: ds) :: fs)).run _ = _
        rw [run_writtenItems (w :: ws) (List.cons_ne_nil w ws) (d :: ds), hdocs, Option.bind_map]
        simp
    · simp

theorem run_writtenMembers (ms : List (String × Json)) (hne : ms ≠ [])
    (ds : List (Option String × Doc)) (fs : List Frame) (ts : List Token) :
    (State.key ds fs).run (writtenMembers ms ++ .objectEnd :: ts) =
      (memberDocs? ms).bind fun es => (State.after fs (.object (ds.reverse ++ es))).run ts := by
  match ms with
  | [] => exact absurd rfl hne
  | [(k, v)] =>
    rw [writtenMembers, List.cons_append, List.cons_append, run_cons]
    change (State.value (.object ds (some k) :: fs)).run _ = _
    rw [run_written v]
    cases hd : v.doc? with
    | none => simp [memberDocs?, hd]
    | some d => simp [memberDocs?, hd, run_cons, State.step]
  | (k, v) :: m :: ms =>
    rw [writtenMembers, List.cons_append, List.cons_append, List.append_assoc, run_cons]
    · change (State.value (.object ds (some k) :: fs)).run _ = _
      rw [run_written v]
      cases hd : v.doc? with
      | none => simp [memberDocs?, hd]
      | some d =>
        have hdocs : memberDocs? ((k, v) :: m :: ms) =
            (memberDocs? (m :: ms)).map ((some k, d) :: ·) := by
          rw [memberDocs?, hd, Option.bind_some]
        rw [Option.bind_some, List.cons_append, run_cons]
        change (State.key ((some k, d) :: ds) fs).run _ = _
        rw [run_writtenMembers (m :: ms) (List.cons_ne_nil m ms) ((some k, d) :: ds), hdocs,
          Option.bind_map]
        simp
    · simp

end

/-- **The text of a value is read as its document.** -/
theorem read?_chars (v : Json) : Doc.read? v.chars = v.doc? := by
  have hrun := run_written v [] []
  rw [List.append_nil] at hrun
  rw [Doc.read?, tokens_chars, Option.bind_some, Doc.ofTokens?, hrun]
  cases v.doc? <;> rfl

end Json

end Criteria
