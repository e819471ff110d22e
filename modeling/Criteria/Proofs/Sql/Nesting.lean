/-
  Criteria/Proofs/Sql/Nesting.lean
  ================================
  **A clause is one group.**  The code of a test is a template around the column,
  and its literals hold whatever the operand holds.  So the parentheses of a test
  are counted over its pieces: `depth?` walks over their code, and fails where
  more is closed than was opened.  Every template comes back to the depth it
  starts from (`depth?_atom`), and so does any chain of tests, hence the
  parentheses around them are closed by nothing in between.
-/
import Criteria.Proofs.Sql.Groups

namespace Criteria.Sql

variable {d : Dialect}

/-! ### The places of pieces -/

def codePlaces (n : Int) : List Char → List Place
  | [] => []
  | c :: cs => ⟨c, some (nest n c)⟩ :: codePlaces (nest n c) cs

def Piece.places (d : Dialect) (n : Int) : Piece → List Place
  | .code cs => codePlaces n cs
  | .literal cs => (d.quote cs).map (⟨·, none⟩)

def Piece.behind (n : Int) : Piece → Int
  | .code cs => cs.foldl nest n
  | .literal _ => n

def piecePlaces (d : Dialect) (n : Int) : List Piece → List Place
  | [] => []
  | p :: ps => p.places d n ++ piecePlaces d (p.behind n) ps

theorem piecePlaces_append (d : Dialect) (n : Int) (ps qs : List Piece) :
    piecePlaces d n (ps ++ qs) =
      piecePlaces d n ps ++ piecePlaces d (ps.foldl Piece.behind n) qs := by
  induction ps generalizing n with
  | nil => rfl
  | cons p ps ih =>
    simp only [List.cons_append, piecePlaces, ih, List.foldl_cons, List.append_assoc]

/-- A character of code is read outside, also right behind a literal. -/
theorem places_code_cons {s : Spot} {ms : List Mark} (h : (Reader.mk [] s).done? = some ms)
    (n : Int) {c : Char} (hc : c ≠ '\'') (rest : List Char) :
    places d ⟨s, n⟩ (c :: rest) =
      ⟨c, some (nest n c)⟩ :: places d ⟨.outside, nest n c⟩ rest := by
  have hstep := Reader.step_plain d h hc
  have hcode : s.isCode d c = true := by simp [Spot.isCode, hstep]
  have hnext : s.next d c = .outside := by rw [Spot.next, hstep]
  simp only [places, Cursor.place, Cursor.next, hcode, hnext, if_true]

/-- A character that the reader leaves no mark for is part of a literal. -/
theorem places_literal_cons {s s' : Spot} {c : Char} (h : Reader.step d ⟨[], s⟩ c = ⟨[], s'⟩)
    (n : Int) (rest : List Char) :
    places d ⟨s, n⟩ (c :: rest) = ⟨c, none⟩ :: places d ⟨s', n⟩ rest := by
  have hcode : s.isCode d c = false := by simp [Spot.isCode, h]
  have hnext : s.next d c = s' := by rw [Spot.next, h]
  simp only [places, Cursor.place, Cursor.next, hcode, hnext, Bool.false_eq_true, if_false]

theorem places_code (n : Int) {cs : List Char} (hq : '\'' ∉ cs) (rest : List Char) :
    places d ⟨.outside, n⟩ (cs ++ rest) =
      codePlaces n cs ++ places d ⟨.outside, cs.foldl nest n⟩ rest := by
  induction cs generalizing n with
  | nil => rfl
  | cons c cs ih =>
    simp only [List.mem_cons, not_or] at hq
    rw [List.cons_append, places_code_cons rfl n (Ne.symm hq.1), ih (nest n c) hq.2]
    rfl

theorem places_escape (n : Int) (held : List Char) (c : Char) (rest : List Char) :
    places d ⟨.inside held, n⟩ (d.escape c ++ rest) =
      (d.escape c).map (⟨·, none⟩) ++ places d ⟨.inside (held ++ [c]), n⟩ rest := by
  by_cases hq : c = '\''
  · subst hq
    rfl
  · by_cases hb : c = '\\' ∧ d = .mysql
    · obtain ⟨rfl, rfl⟩ := hb
      rfl
    · have hescape : d.escape c = [c] := by rw [Dialect.escape, if_neg hq, if_neg hb]
      have hstep : Reader.step d ⟨[], .inside held⟩ c = ⟨[], .inside (held ++ [c])⟩ := by
        simp only [Reader.step, if_neg hq, if_neg hb]
      rw [hescape]
      exact places_literal_cons hstep n rest

theorem places_quote (n : Int) (cs rest : List Char) :
    places d ⟨.outside, n⟩ (d.quote cs ++ rest) =
      (d.quote cs).map (⟨·, none⟩) ++ places d ⟨.closing cs, n⟩ rest := by
  have hbody : ∀ held, places d ⟨.inside held, n⟩ (cs.flatMap d.escape ++ '\'' :: rest) =
      (cs.flatMap d.escape ++ ['\'']).map (⟨·, none⟩) ++
        places d ⟨.closing (held ++ cs), n⟩ rest := by
    induction cs with
    | nil =>
      intro held
      rw [List.append_nil]
      exact places_literal_cons rfl n rest
    | cons c cs ih =>
      intro held
      rw [List.flatMap_cons, List.append_assoc, places_escape, ih]
      simp
  have hopen : d.quote cs ++ rest = '\'' :: (cs.flatMap d.escape ++ '\'' :: rest) := by
    simp [Dialect.quote]
  rw [hopen, places_literal_cons rfl, hbody, Dialect.quote]
  rfl

/-- **Separated pieces have their own places**: those of their code in order, and none in their
    literals. -/
theorem places_pieces {ps : List Piece} (h : Separated ps) (n : Int) :
    places d ⟨.outside, n⟩ (ps.flatMap (Piece.text d)) = piecePlaces d n ps := by
  induction h generalizing n with
  | nil => rfl
  | @code cs ps hq _ ih =>
    rw [List.flatMap_cons, Piece.text, places_code n hq, ih]
    rfl
  | @literal l c cs ps hq _ ih =>
    simp only [List.mem_cons, not_or] at hq
    rw [List.flatMap_cons, List.flatMap_cons, Piece.text, Piece.text, places_quote,
      List.cons_append, places_code_cons rfl n (Ne.symm hq.1), places_code _ hq.2, ih]
    rfl

/-! ### Depth -/

/-- The depth behind a character of code, if it closes only what is open. -/
def nest? (n : Nat) (c : Char) : Option Nat :=
  if c = '(' then some (n + 1)
  else if c = ')' then
    match n with
    | 0 => none
    | m + 1 => some m
  else some n

def Piece.depth? (n : Nat) : Piece → Option Nat
  | .code cs => cs.foldlM nest? n
  | .literal _ => some n

def depth? (n : Nat) (ps : List Piece) : Option Nat := ps.foldlM Piece.depth? n

@[simp] theorem depth?_nil (n : Nat) : depth? n [] = some n := rfl

@[simp] theorem depth?_code (n : Nat) (cs : List Char) (ps : List Piece) :
    depth? n (.code cs :: ps) = (cs.foldlM nest? n).bind fun m => depth? m ps := rfl

@[simp] theorem depth?_literal (n : Nat) (cs : List Char) (ps : List Piece) :
    depth? n (.literal cs :: ps) = depth? n ps := rfl

theorem depth?_append (n : Nat) (ps qs : List Piece) :
    depth? n (ps ++ qs) = (depth? n ps).bind fun m => depth? m qs := List.foldlM_append

@[simp] theorem nest?_opening (n : Nat) : nest? n '(' = some (n + 1) := rfl

@[simp] theorem nest?_closing (n : Nat) : nest? (n + 1) ')' = some n := rfl

theorem nest?_of_ne (n : Nat) {c : Char} (ho : c ≠ '(') (hc : c ≠ ')') : nest? n c = some n := by
  simp only [nest?, if_neg ho, if_neg hc]

/-- The two counts agree one pair of parentheses further in. -/
theorem nest_of_nest? {n m : Nat} {c : Char} (h : nest? n c = some m) :
    nest (n + 1) c = m + 1 := by
  by_cases ho : c = '('
  · subst ho
    obtain rfl : n + 1 = m := Option.some.inj h
    rfl
  · by_cases hc : c = ')'
    · subst hc
      cases n with
      | zero => exact nomatch h
      | succ n =>
        obtain rfl : n = m := Option.some.inj h
        simp [nest]
    · obtain rfl : n = m := by simpa [nest?_of_ne n ho hc] using h
      rw [nest, if_neg ho, if_neg hc]

/-- What never closes more than it opened stays inside one more pair of parentheses. -/
theorem codePlaces_inside {cs : List Char} {n m : Nat} (h : cs.foldlM nest? n = some m) :
    cs.foldl nest (n + 1) = m + 1 ∧ ∀ p ∈ codePlaces (n + 1) cs, p.IsInside := by
  induction cs generalizing n with
  | nil =>
    obtain rfl : n = m := by simpa using h
    exact ⟨rfl, fun p hp => nomatch hp⟩
  | cons c cs ih =>
    rw [List.foldlM_cons, Option.bind_eq_bind, Option.bind_eq_some_iff] at h
    obtain ⟨j, hj, htail⟩ := h
    have hstep : nest (n + 1) c = j + 1 := nest_of_nest? hj
    obtain ⟨hdepth, hinside⟩ := ih htail
    rw [List.foldl_cons, codePlaces, hstep]
    refine ⟨hdepth, ?_⟩
    intro p hp
    rcases List.mem_cons.mp hp with rfl | hp
    · intro k hk
      obtain rfl : (j : Int) + 1 = k := Option.some.inj hk
      omega
    · exact hinside p hp

theorem piecePlaces_inside {ps : List Piece} {n m : Nat} (h : depth? n ps = some m) :
    ps.foldl Piece.behind (n + 1) = m + 1 ∧ ∀ p ∈ piecePlaces d (n + 1) ps, p.IsInside := by
  induction ps generalizing n with
  | nil =>
    obtain rfl : n = m := by simpa [depth?] using h
    exact ⟨rfl, fun p hp => nomatch hp⟩
  | cons p ps ih =>
    rw [depth?, List.foldlM_cons, Option.bind_eq_bind, Option.bind_eq_some_iff] at h
    obtain ⟨j, hj, htail⟩ := h
    have hpiece : p.behind (n + 1) = j + 1 ∧ ∀ q ∈ p.places d (n + 1), q.IsInside := by
      cases p with
      | code cs => exact codePlaces_inside hj
      | literal cs =>
        obtain rfl : n = j := Option.some.inj hj
        refine ⟨rfl, ?_⟩
        intro q hq
        obtain ⟨c, _, rfl⟩ := List.mem_map.mp hq
        exact fun k hk => nomatch hk
    obtain ⟨hdepth, hinside⟩ := ih htail
    rw [List.foldl_cons, piecePlaces, hpiece.1]
    refine ⟨hdepth, ?_⟩
    intro q hq
    rcases List.mem_append.mp hq with hq | hq
    · exact hpiece.2 q hq
    · exact hinside q hq

/-! ### Templates -/

/-- A name that parentheses and literals can be counted around. -/
structure IsBare (name : List Char) : Prop where
  quote : '\'' ∉ name
  opening : '(' ∉ name
  closing : ')' ∉ name

theorem foldlM_nest? {cs : List Char} (ho : '(' ∉ cs) (hc : ')' ∉ cs) (n : Nat) :
    cs.foldlM nest? n = some n := by
  induction cs with
  | nil => rfl
  | cons c cs ih =>
    simp only [List.mem_cons, not_or] at ho hc
    rw [List.foldlM_cons, nest?_of_ne n (Ne.symm ho.1) (Ne.symm hc.1)]
    exact ih ho.2 hc.2

theorem foldlM_nest?_digits (k n : Nat) : (Text.digits k).foldlM nest? n = some n := by
  have hdigit : ∀ c ∈ Text.digits k, c.isDigit = true := fun c hc =>
    Nat.isDigit_of_mem_toDigits (by decide) (by decide) hc
  refine foldlM_nest? ?_ ?_ n
  · exact fun h => absurd (hdigit _ h) (by decide)
  · exact fun h => absurd (hdigit _ h) (by decide)

variable {column : String}

theorem depth?_atom (d : Dialect) (hcol : IsBare column.toList) (a : Atom) (n : Nat) :
    depth? n (a.pieces d column) = some n := by
  have hcolumn := foldlM_nest? hcol.opening hcol.closing
  cases a with
  | compare c literal =>
    cases c <;> simp [Atom.pieces, Comparison.sign, hcolumn, nest?]
  | null negated =>
    cases negated <;> simp [Atom.pieces, notText, hcolumn, nest?]
  | like negated pattern escapes =>
    simp only [Atom.pieces, likePieces]
    split <;> cases negated <;> simp [notText, hcolumn, nest?]
  | onDay days =>
    have hdigits := foldlM_nest?_digits days.natAbs
    by_cases hday : days = 0
    · cases d <;> simp [Atom.pieces, dayPieces, hday, hcolumn, nest?]
    · by_cases hpast : days < 0
      · cases d <;> simp [Atom.pieces, dayPieces, hday, hpast, hcolumn, hdigits, nest?]
      · cases d <;> simp [Atom.pieces, dayPieces, hday, hpast, hcolumn, hdigits, nest?]
  | member negated token =>
    cases d <;> cases negated <;> simp [Atom.pieces, memberPieces, notText, hcolumn, nest?]

theorem depth?_joined (d : Dialect) (hcol : IsBare column.toList) (k : Connective)
    (as : List Atom) (n : Nat) : depth? n (joined d column k as) = some n := by
  induction as with
  | nil => rfl
  | cons a as ih =>
    cases as with
    | nil => exact depth?_atom d hcol a n
    | cons b bs =>
      have hconnective : depth? n [.code k.text] = some n := by
        cases k <;> rfl
      have hjoined : joined d column k (a :: b :: bs) =
          a.pieces d column ++ ([.code k.text] ++ joined d column k (b :: bs)) := rfl
      rw [hjoined, depth?_append, depth?_atom d hcol, Option.bind_some, depth?_append, hconnective,
        Option.bind_some, ih]

/-- **The text of a clause is one closed group**, whatever its literals hold. -/
theorem isGroup_text (d : Dialect) {q : Clause} (hcol : IsBare q.column.toList) :
    IsGroup d (q.text d).toList := by
  have hseparated : Separated (q.pieces d) := Clause.separated_pieces d hcol.quote
  obtain ⟨hdepth, hinside⟩ := piecePlaces_inside (depth?_joined d hcol q.connective q.atoms 0)
  -- The tests are walked over from level zero, and stand one level in.
  have hbehind : (joined d q.column q.connective q.atoms).foldl Piece.behind 1 = 1 := hdepth
  refine ⟨piecePlaces d 1 (joined d q.column q.connective q.atoms), ?_, hinside⟩
  have hpieces : piecePlaces d 0 (q.pieces d) = ⟨'(', some 1⟩ ::
      (piecePlaces d 1 (joined d q.column q.connective q.atoms ++ [.code [')']])) := rfl
  rw [Clause.text, String.toList_ofList, places_pieces hseparated, hpieces,
    piecePlaces_append, hbehind]
  rfl

end Criteria.Sql
