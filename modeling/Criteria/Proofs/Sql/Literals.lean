/-
  Criteria/Proofs/Sql/Literals.lean
  =================================
  **The literals of a clause, read back from its text.**  A store reads the text
  of a clause character by character.  `marks?` reads it in the same way, by the
  dialect's own rules for string literals and without any knowledge of how the
  text came about: a literal opens at a quote, closes at the first quote that is
  not doubled, and in MySQL a backslash makes the next character part of it.

  The text of a clause is a list of pieces.  `marks?_pieces` says that the reader
  finds exactly these pieces again, as long as the code among them holds no quote
  and no two literals stand side by side (`Separated`).  So what a literal holds
  never ends it, and the code around it is read as code.
-/
import Criteria.Renderer

namespace Criteria.Sql

/-! ### The reader -/

/-- What a place of a text is: a character of code, or a literal as a whole. -/
inductive Mark where
  | plain (c : Char)
  | literal (cs : List Char)
  deriving DecidableEq, Repr

inductive Spot where
  | outside
  /-- Inside a literal, of which this much is read. -/
  | inside (held : List Char)
  /-- After a backslash inside a literal. -/
  | escaped (held : List Char)
  /-- After a quote inside a literal, which closes it or is the first of two. -/
  | closing (held : List Char)
  deriving DecidableEq, Repr

/-- A reader: the marks that are behind it, and where it stands. -/
structure Reader where
  marks : List Mark
  spot : Spot
  deriving DecidableEq, Repr

def Reader.step (d : Dialect) (r : Reader) (c : Char) : Reader :=
  match r.spot with
  | .outside =>
    if c = '\'' then ⟨r.marks, .inside []⟩ else ⟨r.marks ++ [.plain c], .outside⟩
  | .inside held =>
    if c = '\'' then ⟨r.marks, .closing held⟩
    else if c = '\\' ∧ d = .mysql then ⟨r.marks, .escaped held⟩
    else ⟨r.marks, .inside (held ++ [c])⟩
  | .escaped held => ⟨r.marks, .inside (held ++ [c])⟩
  | .closing held =>
    if c = '\'' then ⟨r.marks, .inside (held ++ [c])⟩
    else ⟨r.marks ++ [.literal held, .plain c], .outside⟩

/-- What a reader has read if the text ends here; nothing if it ends inside a literal. -/
def Reader.done? (r : Reader) : Option (List Mark) :=
  match r.spot with
  | .outside => some r.marks
  | .closing held => some (r.marks ++ [.literal held])
  | .inside _ | .escaped _ => none

/-- A text read by the literal rules of a dialect. -/
def marks? (d : Dialect) (cs : List Char) : Option (List Mark) :=
  (cs.foldl (Reader.step d) ⟨[], .outside⟩).done?

def literals (ms : List Mark) : List (List Char) :=
  ms.filterMap fun
    | .plain _ => none
    | .literal cs => some cs

/-- The text with a gap in place of each literal. -/
def outline (ms : List Mark) : List (Option Char) :=
  ms.map fun
    | .plain c => some c
    | .literal _ => none

@[simp] theorem literals_plain (cs : List Char) : literals (cs.map .plain) = [] := by
  simp [literals]

@[simp] theorem literals_nil : literals [] = [] := rfl

@[simp] theorem literals_cons_plain (c : Char) (ms : List Mark) :
    literals (.plain c :: ms) = literals ms := rfl

@[simp] theorem literals_cons_literal (cs : List Char) (ms : List Mark) :
    literals (.literal cs :: ms) = cs :: literals ms := rfl

@[simp] theorem outline_plain (cs : List Char) : outline (cs.map .plain) = cs.map some := by
  simp [outline]

@[simp] theorem outline_nil : outline [] = [] := rfl

@[simp] theorem outline_cons_plain (c : Char) (ms : List Mark) :
    outline (.plain c :: ms) = some c :: outline ms := rfl

@[simp] theorem outline_cons_literal (cs : List Char) (ms : List Mark) :
    outline (.literal cs :: ms) = none :: outline ms := rfl

@[simp] theorem literals_append (ms ns : List Mark) :
    literals (ms ++ ns) = literals ms ++ literals ns := List.filterMap_append

@[simp] theorem outline_append (ms ns : List Mark) :
    outline (ms ++ ns) = outline ms ++ outline ns := List.map_append

/-! ### What a reader makes of code and of a literal -/

/-- A character of code is read as itself, also right behind a literal. -/
theorem Reader.step_plain (d : Dialect) {r : Reader} {ms : List Mark} (h : r.done? = some ms)
    {c : Char} (hc : c ≠ '\'') : r.step d c = ⟨ms ++ [.plain c], .outside⟩ := by
  obtain ⟨marks, spot⟩ := r
  cases spot with
  | outside =>
    simp only [done?, Option.some.injEq] at h
    simp only [step, if_neg hc, h]
  | closing held =>
    simp only [done?, Option.some.injEq] at h
    simp only [step, if_neg hc, ← h, List.append_assoc, List.cons_append, List.nil_append]
  | inside held => simp [done?] at h
  | escaped held => simp [done?] at h

theorem foldl_step_code (d : Dialect) {code : List Char} (hq : '\'' ∉ code) (ms : List Mark) :
    code.foldl (Reader.step d) ⟨ms, .outside⟩ = ⟨ms ++ code.map .plain, .outside⟩ := by
  induction code generalizing ms with
  | nil => simp
  | cons c code ih =>
    simp only [List.mem_cons, not_or] at hq
    have hstep : Reader.step d ⟨ms, .outside⟩ c = ⟨ms ++ [.plain c], .outside⟩ :=
      Reader.step_plain d rfl fun hc => hq.1 hc.symm
    rw [List.foldl_cons, hstep, ih hq.2]
    simp

/-- Code that is not empty is read as itself, also right behind a literal. -/
theorem foldl_step_code_of_done (d : Dialect) {r : Reader} {ms : List Mark}
    (h : r.done? = some ms) {c : Char} {code : List Char} (hq : '\'' ∉ c :: code) :
    (c :: code).foldl (Reader.step d) r = ⟨ms ++ (c :: code).map .plain, .outside⟩ := by
  simp only [List.mem_cons, not_or] at hq
  rw [List.foldl_cons, Reader.step_plain d h fun hc => hq.1 hc.symm, foldl_step_code d hq.2]
  simp

/-- **One escaped character is read as that character**, in every dialect. -/
theorem foldl_step_escape (d : Dialect) (ms : List Mark) (held : List Char) (c : Char) :
    (d.escape c).foldl (Reader.step d) ⟨ms, .inside held⟩ = ⟨ms, .inside (held ++ [c])⟩ := by
  by_cases hq : c = '\''
  · subst hq
    rfl
  · by_cases hb : c = '\\' ∧ d = .mysql
    · obtain ⟨rfl, rfl⟩ := hb
      rfl
    · simp only [Dialect.escape, if_neg hq, if_neg hb, List.foldl_cons, List.foldl_nil,
        Reader.step]

theorem foldl_step_quote (d : Dialect) (ms : List Mark) (cs : List Char) :
    (d.quote cs).foldl (Reader.step d) ⟨ms, .outside⟩ = ⟨ms, .closing cs⟩ := by
  have hbody : ∀ held, (cs.flatMap d.escape).foldl (Reader.step d) ⟨ms, .inside held⟩ =
      ⟨ms, .inside (held ++ cs)⟩ := by
    induction cs with
    | nil => simp
    | cons c cs ih =>
      intro held
      rw [List.flatMap_cons, List.foldl_append, foldl_step_escape, ih]
      simp
  rw [Dialect.quote, List.foldl_cons, List.foldl_append]
  change List.foldl (Reader.step d) ((cs.flatMap d.escape).foldl (Reader.step d) ⟨ms, .inside []⟩)
    ['\''] = _
  rw [hbody]
  rfl

/-! ### Pieces -/

def Piece.marks : Piece → List Mark
  | .code cs => cs.map .plain
  | .literal cs => [.literal cs]

/-- Pieces that a reader can tell apart: no quote in the code, and behind every literal a
    character of code. -/
inductive Separated : List Piece → Prop
  | nil : Separated []
  | code {cs : List Char} {ps : List Piece} (hq : '\'' ∉ cs) (h : Separated ps) :
      Separated (.code cs :: ps)
  | literal (l : List Char) {c : Char} {cs : List Char} {ps : List Piece} (hq : '\'' ∉ c :: cs)
      (h : Separated ps) : Separated (.literal l :: .code (c :: cs) :: ps)

/-- The reader leaves separated pieces outside of any literal, with what they say behind it. -/
theorem Separated.foldl_step (d : Dialect) {ps : List Piece} (h : Separated ps) (ms : List Mark) :
    (ps.flatMap (Piece.text d)).foldl (Reader.step d) ⟨ms, .outside⟩ =
      ⟨ms ++ ps.flatMap Piece.marks, .outside⟩ := by
  -- On the derivation, not on the pieces: a literal comes with the code that closes it.
  induction h generalizing ms with
  | nil => simp
  | @code cs ps hcs _ ih =>
    rw [List.flatMap_cons, List.foldl_append]
    simp only [Piece.text]
    rw [foldl_step_code d hcs, ih]
    simp [Piece.marks]
  | @literal l c cs ps hcs _ ih =>
    rw [List.flatMap_cons, List.flatMap_cons, List.foldl_append, List.foldl_append]
    simp only [Piece.text]
    have hdone : (Reader.mk ms (.closing l)).done? = some (ms ++ [.literal l]) := rfl
    rw [foldl_step_quote, foldl_step_code_of_done d hdone hcs, ih]
    simp [Piece.marks]

/-- **Separated pieces are read back**, each as what it is. -/
theorem marks?_pieces (d : Dialect) {ps : List Piece} (h : Separated ps) :
    marks? d (ps.flatMap (Piece.text d)) = some (ps.flatMap Piece.marks) := by
  rw [marks?, h.foldl_step d]
  rfl

/-! ### The pieces of a clause are told apart -/

theorem quote_not_mem_digits (n : Nat) : '\'' ∉ Text.digits n := by
  intro h
  have hdigit := Nat.isDigit_of_mem_toDigits (by decide) (by decide) h
  exact absurd hdigit (by decide)

theorem separated_dayPieces (d : Dialect) {column : String} (hcol : '\'' ∉ column.toList)
    (days : Int) {c : Char} {cs : List Char} {ps : List Piece} (hq : '\'' ∉ c :: cs)
    (h : Separated ps) : Separated (dayPieces d column days ++ .code (c :: cs) :: ps) := by
  have hdigits := quote_not_mem_digits days.natAbs
  have htail : Separated (.code (c :: cs) :: ps) := .code hq h
  cases d with
  | mysql =>
    by_cases hday : days = 0
    · simp only [dayPieces, if_pos hday, List.cons_append, List.nil_append]
      exact .code (by simp [hcol]) htail
    · simp only [dayPieces, if_neg hday, List.cons_append, List.nil_append]
      refine .code ?_ htail
      split <;> simp [hcol, hdigits]
  | postgresql =>
    by_cases hday : days = 0
    · simp only [dayPieces, if_pos hday, List.cons_append, List.nil_append]
      exact .code (by simp [hcol]) htail
    · simp only [dayPieces, if_neg hday, List.cons_append, List.nil_append]
      refine .code ?_ (.literal _ hq h)
      split <;> simp [hcol]
  | sqlite =>
    by_cases hday : days = 0
    · simp only [dayPieces, if_pos hday, List.cons_append, List.nil_append]
      exact .code (by simp [hcol]) (.literal _ (by decide) htail)
    · simp only [dayPieces, if_neg hday, List.cons_append, List.nil_append]
      exact .code (by simp [hcol]) (.literal _ (by decide) (.literal _ (by decide) htail))

theorem separated_memberPieces (d : Dialect) {column : String} (hcol : '\'' ∉ column.toList)
    (negated : Bool) (token : List Char) {c : Char} {cs : List Char} {ps : List Piece}
    (hq : '\'' ∉ c :: cs) (h : Separated ps) :
    Separated (memberPieces d column negated token ++ .code (c :: cs) :: ps) := by
  have htail : Separated (.code (c :: cs) :: ps) := .code hq h
  cases d with
  | mysql =>
    have hrest : (", " ++ column ++ ")").toList = ',' :: ' ' :: (column.toList ++ [')']) := by simp
    simp only [memberPieces, List.cons_append, List.nil_append, hrest]
    refine .code ?_ (.literal _ (by simp [hcol]) htail)
    cases negated <;> simp [notText]
  | postgresql =>
    have htest : (" = ANY(string_to_array(" ++ column ++ ", ").toList =
        ' ' :: ("= ANY(string_to_array(".toList ++ column.toList ++ [',', ' ']) := by simp
    have hopen :
        '\'' ∉ ' ' :: ("= ANY(string_to_array(".toList ++ column.toList ++ [',', ' ']) := by
      simp [hcol]
    cases negated with
    | false =>
      simp only [memberPieces, Bool.false_eq_true, if_false, List.cons_append, List.nil_append,
        htest]
      exact .literal _ hopen (.literal _ (by decide) htail)
    | true =>
      simp only [memberPieces, if_true, List.cons_append, List.nil_append, htest]
      exact .code (by decide) (.literal _ hopen (.literal _ (by decide) (.code (by decide) htail)))
  | sqlite =>
    have hpadded : (" || " ++ column ++ " || ").toList =
        ' ' :: ("|| ".toList ++ column.toList ++ " || ".toList) := by simp
    have hpad : '\'' ∉ ' ' :: ("|| ".toList ++ column.toList ++ " || ".toList) := by simp [hcol]
    simp only [memberPieces, List.cons_append, List.nil_append, hpadded]
    refine .code (by decide) (.literal _ hpad (.literal _ (by decide) ?_))
    cases negated with
    | false => exact .literal _ (by decide) htail
    | true => exact .literal _ (by decide) htail

/-- A test that is followed by code can be told apart from it. -/
theorem separated_atom (d : Dialect) {column : String} (hcol : '\'' ∉ column.toList) (a : Atom)
    {c : Char} {cs : List Char} {ps : List Piece} (hq : '\'' ∉ c :: cs) (h : Separated ps) :
    Separated (a.pieces d column ++ .code (c :: cs) :: ps) := by
  cases a with
  | compare comparison literal =>
    simp only [Atom.pieces, List.cons_append, List.nil_append]
    refine .code ?_ (.literal _ hq h)
    cases comparison <;> simp [hcol, Comparison.sign]
  | null negated =>
    simp only [Atom.pieces, List.cons_append, List.nil_append]
    refine .code ?_ (.code hq h)
    cases negated <;> simp [hcol, notText]
  | like negated pattern escapes =>
    have hcode : '\'' ∉ (column ++ " " ++ notText negated ++ "LIKE ").toList := by
      cases negated <;> simp [hcol, notText]
    simp only [Atom.pieces, likePieces]
    split
    · exact .code hcode (.literal _ (by decide) (.literal _ hq h))
    · exact .code hcode (.literal _ hq h)
  | onDay days => exact separated_dayPieces d hcol days hq h
  | member negated token => exact separated_memberPieces d hcol negated token hq h

/-- The text of a connective: a blank and more, without a quote. -/
theorem Connective.text_eq_cons (c : Connective) :
    ∃ cs, c.text = ' ' :: cs ∧ '\'' ∉ ' ' :: cs := by
  cases c with
  | or => exact ⟨"OR ".toList, by decide, by decide⟩
  | and => exact ⟨"AND ".toList, by decide, by decide⟩

theorem separated_joined (d : Dialect) {column : String} (hcol : '\'' ∉ column.toList)
    (k : Connective) (as : List Atom) {c : Char} {cs : List Char} {ps : List Piece}
    (hq : '\'' ∉ c :: cs) (h : Separated ps) :
    Separated (joined d column k as ++ .code (c :: cs) :: ps) := by
  obtain ⟨ks, hk, hkq⟩ := k.text_eq_cons
  induction as with
  | nil => exact .code hq h
  | cons a as ih =>
    cases as with
    | nil => exact separated_atom d hcol a hq h
    | cons b bs =>
      simp only [joined, List.append_assoc, List.cons_append, hk]
      exact separated_atom d hcol a hkq ih

theorem Clause.separated_pieces (d : Dialect) {q : Clause} (hcol : '\'' ∉ q.column.toList) :
    Separated (q.pieces d) :=
  .code (by decide) (separated_joined d hcol _ _ (by decide) .nil)

/-- **The text of a clause is read back** as the pieces that it was written from. -/
theorem marks?_text (d : Dialect) {q : Clause} (hcol : '\'' ∉ q.column.toList) :
    marks? d (q.text d).toList = some ((q.pieces d).flatMap Piece.marks) := by
  rw [Clause.text, String.toList_ofList]
  exact marks?_pieces d (Clause.separated_pieces d hcol)

end Criteria.Sql
