/-
  Criteria/Proofs/Sql/Outline.lean
  ================================
  **What the text of a condition holds.**  For a condition in normal form
  `literalsOf` lists the literals that its clause is meant to have, and
  `outlineOf` gives the text around them with a gap in place of each.  The
  outline is not told the operand: it knows the number of its tokens and whether
  it has a character that a pattern must escape, and nothing else.

  The last theorem joins the two to the reader of `Criteria/Proofs/Sql/Literals`:
  whatever the operand is, the rendered text reads back as exactly these literals
  in exactly this outline.  The column's name is written as it is given, so it is
  asked to hold no quote.
-/
import Criteria.Proofs.Condition.Normal
import Criteria.Proofs.Sql.Literals

namespace Criteria.Sql

/-! ### The literals that are meant -/

/-- The operand as bare text. -/
def operandText (n : Condition) : List Char := (n.operand.map fun v => v.literal.toList).getD []

/-- Whether a pattern has to escape some character of a text. -/
def hasWildcard (raw : List Char) : Bool := raw.any fun c => c == '\\' || c == '%' || c == '_'

def dayLiterals : Dialect → Operator → List String
  | .postgresql, .yesterday | .postgresql, .tomorrow => ["1 day"]
  | .sqlite, .yesterday => ["now", "-1 day"]
  | .sqlite, .tomorrow => ["now", "+1 day"]
  | .sqlite, _ => ["now"]
  | _, _ => []

/-- The literals of a membership test: the token, and the commas that some dialects need. -/
def memberLiterals (d : Dialect) (token : List Char) : List (List Char) :=
  match d with
  | .mysql => [token]
  | .postgresql => [token, [',']]
  | .sqlite => [[','], [','], ',' :: (token ++ [','])]

/-- The literals of the text of a condition in normal form, in order. -/
def literalsOf (d : Dialect) (n : Condition) : List (List Char) :=
  match n.operator.family with
  | .nullCheck => if n.valueType.foldsEmpty then [[]] else []
  | .relativeDay _ => (dayLiterals d n.operator).map String.toList
  | .equality | .ordering => [operandText n]
  | .substring kind =>
    patternOf kind (operandText n) ::
      if d = .sqlite ∧ hasWildcard (operandText n) then [['\\']] else []
  | .anyToken _ => n.tokens.flatMap fun t => memberLiterals d t.toList

/-! ### The text around them -/

def shown (s : String) : List (Option Char) := s.toList.map some

def gap : List (Option Char) := [none]

def dayOutline (d : Dialect) (column : String) (o : Operator) : List (Option Char) :=
  match d, o with
  | .mysql, .yesterday => shown ("DATE(" ++ column ++ ") = DATE(NOW() - INTERVAL 1 DAY)")
  | .mysql, .tomorrow => shown ("DATE(" ++ column ++ ") = DATE(NOW() + INTERVAL 1 DAY)")
  | .mysql, _ => shown ("DATE(" ++ column ++ ") = DATE(NOW())")
  | .postgresql, .yesterday =>
    shown ("CAST(" ++ column ++ " AS DATE) = CURRENT_DATE - INTERVAL ") ++ gap
  | .postgresql, .tomorrow =>
    shown ("CAST(" ++ column ++ " AS DATE) = CURRENT_DATE + INTERVAL ") ++ gap
  | .postgresql, _ => shown ("CAST(" ++ column ++ " AS DATE) = CURRENT_DATE")
  | .sqlite, .yesterday | .sqlite, .tomorrow =>
    shown ("date(" ++ column ++ ") = date(") ++ gap ++ shown ", " ++ gap ++ shown ")"
  | .sqlite, _ => shown ("date(" ++ column ++ ") = date(") ++ gap ++ shown ")"

def memberOutline (d : Dialect) (column : String) (negated : Bool) : List (Option Char) :=
  match d, negated with
  | .mysql, false => shown "FIND_IN_SET(" ++ gap ++ shown (", " ++ column ++ ")")
  | .mysql, true => shown "NOT FIND_IN_SET(" ++ gap ++ shown (", " ++ column ++ ")")
  | .postgresql, false =>
    gap ++ shown (" = ANY(string_to_array(" ++ column ++ ", ") ++ gap ++ shown "))"
  | .postgresql, true =>
    shown "NOT (" ++ gap ++ shown (" = ANY(string_to_array(" ++ column ++ ", ") ++ gap ++
      shown ")))"
  | .sqlite, _ =>
    shown "instr(" ++ gap ++ shown (" || " ++ column ++ " || ") ++ gap ++ shown ", " ++ gap ++
      shown (if negated then ") = 0" else ") > 0")

/-- The outline of the text of a condition: of the operand it knows how many tokens there are and
    whether a pattern escapes. -/
def outlineOf (d : Dialect) (column : String) (o : Operator) (t : ValueType) (count : Nat)
    (escapes : Bool) : List (Option Char) :=
  let body :=
    match o.family with
    | .nullCheck =>
      shown (column ++ if o.isNegated then " IS NOT NULL" else " IS NULL") ++
        if t.foldsEmpty then
          shown (" OR " ++ column ++ if o.isNegated then " <> " else " = ") ++ gap
        else []
    | .relativeDay _ => dayOutline d column o
    | .equality | .ordering => shown (column ++ " " ++ (comparisonOf o).sign ++ " ") ++ gap
    | .substring _ =>
      shown (column ++ if o.isNegated then " NOT LIKE " else " LIKE ") ++ gap ++
        if d = .sqlite ∧ escapes then shown " ESCAPE " ++ gap else []
    | .anyToken _ =>
      (shown (if o.isNegated then " AND " else " OR ")).intercalate
        (List.replicate count (memberOutline d column o.isNegated))
  shown "(" ++ body ++ shown ")"

/-! ### Where a pattern escapes -/

theorem escapePattern_of_ne {c : Char} (h : ¬ (c = '\\' ∨ c = '%' ∨ c = '_')) :
    escapePattern c = [c] := by
  rw [escapePattern, if_neg h]

theorem length_le_length_flatMap_escapePattern (raw : List Char) :
    raw.length ≤ (raw.flatMap escapePattern).length := by
  induction raw with
  | nil => exact Nat.le_refl _
  | cons c raw ih =>
    rw [List.flatMap_cons, List.length_append, List.length_cons]
    have hone : 1 ≤ (escapePattern c).length := by
      unfold escapePattern
      split <;> simp
    omega

/-- Escaping changes a text exactly if the text has a character to escape. -/
theorem flatMap_escapePattern_ne (raw : List Char) :
    (raw.flatMap escapePattern != raw) = hasWildcard raw := by
  induction raw with
  | nil => rfl
  | cons c raw ih =>
    -- The lengths tell: an escaped character takes two places, and no later one gives any back.
    by_cases hc : c = '\\' ∨ c = '%' ∨ c = '_'
    · have hlength := length_le_length_flatMap_escapePattern raw
      have hne : (c :: raw).flatMap escapePattern ≠ c :: raw := by
        intro heq
        have := congrArg List.length heq
        simp only [List.flatMap_cons, escapePattern, if_pos hc, List.length_append,
          List.length_cons, List.length_nil] at this
        omega
      have hhead : (c == '\\' || c == '%' || c == '_') = true := by simpa [or_assoc] using hc
      rw [bne_iff_ne.mpr hne, hasWildcard, List.any_cons, hhead, Bool.true_or]
    · have hhead : (c == '\\' || c == '%' || c == '_') = false := by
        simpa [not_or, and_assoc] using hc
      rw [List.flatMap_cons, escapePattern_of_ne hc, hasWildcard, List.any_cons, hhead,
        Bool.false_or, ← hasWildcard, ← ih]
      simp [bne]

/-! ### Tests read back -/

theorem member_marks (d : Dialect) (column : String) (negated : Bool) (token : List Char) :
    literals ((memberPieces d column negated token).flatMap Piece.marks) = memberLiterals d token ∧
    outline ((memberPieces d column negated token).flatMap Piece.marks) =
      memberOutline d column negated := by
  cases d <;> cases negated <;>
    simp [memberPieces, memberLiterals, memberOutline, Piece.marks, shown, gap, notText]

theorem joined_marks (d : Dialect) (column : String) (negated : Bool) (k : Connective)
    (tokens : List String) :
    let ms := (joined d column k (tokens.map fun t => .member negated t.toList)).flatMap Piece.marks
    literals ms = tokens.flatMap (fun t => memberLiterals d t.toList) ∧
    outline ms = (k.text.map some).intercalate
      (List.replicate tokens.length (memberOutline d column negated)) := by
  induction tokens with
  | nil => exact ⟨rfl, rfl⟩
  | cons t tokens ih =>
    obtain ⟨hliterals, houtline⟩ := member_marks d column negated t.toList
    cases tokens with
    | nil => simpa [joined, Atom.pieces, List.intercalate] using ⟨hliterals, houtline⟩
    | cons u us =>
      obtain ⟨ihliterals, ihoutline⟩ := ih
      simp only [List.map_cons] at ihliterals ihoutline
      simp only [List.map_cons, joined, Atom.pieces, List.flatMap_append, List.flatMap_cons,
        literals_append, outline_append, hliterals, houtline, ihliterals, ihoutline, Piece.marks,
        literals_plain, outline_plain, List.nil_append, List.length_cons, List.replicate_succ]
      simp [List.intercalate]

theorem day_marks (d : Dialect) (column : String) (o : Operator) {days : Int64}
    (h : o.family = .relativeDay days) :
    let ms := (dayPieces d column days.toInt).flatMap Piece.marks
    literals ms = (dayLiterals d o).map String.toList ∧ outline ms = dayOutline d column o := by
  have hone : Text.digits 1 = ['1'] := rfl
  cases o <;> simp only [Operator.family, reduceCtorEq, Operator.Family.relativeDay.injEq] at h <;>
    subst h <;> cases d <;>
    simp [dayPieces, dayLiterals, dayOutline, Piece.marks, shown, gap, Text.signedDigits, hone]

/-! ### Clauses read back -/

def Clause.marks (d : Dialect) (q : Clause) : List Mark := (q.pieces d).flatMap Piece.marks

theorem Clause.literals_marks (d : Dialect) (q : Clause) :
    literals (q.marks d) =
      literals ((joined d q.column q.connective q.atoms).flatMap Piece.marks) := by
  simp [Clause.marks, Clause.pieces, Piece.marks]

theorem Clause.outline_marks (d : Dialect) (q : Clause) :
    outline (q.marks d) =
      shown "(" ++ outline ((joined d q.column q.connective q.atoms).flatMap Piece.marks) ++
        shown ")" := by
  simp [Clause.marks, Clause.pieces, Piece.marks, shown]

theorem clauseOf?_column {n : Condition} {q : Clause} (h : clauseOf? n = some q) :
    q.column = n.identifier := by
  unfold clauseOf? at h
  cases hf : n.operator.family with
  | nullCheck =>
    simp only [hf, Option.some.injEq] at h
    rw [← h, nullClause]
  | relativeDay days =>
    simp only [hf, Option.some.injEq] at h
    rw [← h]
  | equality | ordering =>
    simp only [hf, Option.map_eq_some_iff] at h
    obtain ⟨v, _, rfl⟩ := h
    rfl
  | substring kind =>
    simp only [hf, Option.ite_none_right_eq_some, Option.map_eq_some_iff] at h
    obtain ⟨_, v, _, rfl⟩ := h
    rfl
  | anyToken kind =>
    cases kind with
    | exact =>
      simp only [hf, tokenClause?, Option.ite_none_left_eq_some, Option.some.injEq] at h
      rw [← h.2]
    | leading | trailing | within => simp [hf] at h

/-- **The clause of a normal form has the literals that are meant**, in the outline that is
    meant. -/
theorem clauseOf?_marks (d : Dialect) {n : Condition} {q : Clause} (h : clauseOf? n = some q) :
    literals (q.marks d) = literalsOf d n ∧
    outline (q.marks d) = outlineOf d n.identifier n.operator n.valueType n.tokens.length
      (hasWildcard (operandText n)) := by
  rw [q.literals_marks, q.outline_marks, literalsOf, outlineOf]
  unfold clauseOf? at h
  cases hf : n.operator.family with
  | nullCheck =>
    simp only [hf, Option.some.injEq, nullClause] at h
    subst h
    cases n.operator.isNegated <;> cases n.valueType.foldsEmpty <;>
      simp [joined, Atom.pieces, Piece.marks, shown, gap, notText, Connective.text, Comparison.sign]
  | relativeDay days =>
    simp only [hf, Option.some.injEq] at h
    subst h
    obtain ⟨hliterals, houtline⟩ := day_marks d n.identifier n.operator hf
    simp only [joined, Atom.pieces, hliterals, houtline, and_self]
  | equality | ordering =>
    simp only [hf, Option.map_eq_some_iff] at h
    obtain ⟨v, hv, rfl⟩ := h
    simp [joined, Atom.pieces, Piece.marks, operandText, hv, shown, gap]
  | substring kind =>
    simp only [hf, Option.ite_none_right_eq_some, Option.map_eq_some_iff] at h
    obtain ⟨_, v, hv, rfl⟩ := h
    have hraw : operandText n = v.literal.toList := by rw [operandText, hv]; rfl
    simp only [joined, Atom.pieces, likePieces, hraw, flatMap_escapePattern_ne]
    by_cases hescapes : d = .sqlite ∧ hasWildcard v.literal.toList = true
    · simp only [if_pos hescapes]
      cases n.operator.isNegated <;> simp [Piece.marks, shown, gap, notText]
    · simp only [if_neg hescapes]
      cases n.operator.isNegated <;> simp [Piece.marks, shown, gap, notText]
  | anyToken kind =>
    cases kind with
    | exact =>
      simp only [hf, tokenClause?, Option.ite_none_left_eq_some, Option.some.injEq] at h
      obtain ⟨_, rfl⟩ := h
      obtain ⟨hliterals, houtline⟩ := joined_marks d n.identifier n.operator.isNegated
        (if n.operator.isNegated then .and else .or) n.tokens
      refine ⟨hliterals, ?_⟩
      simp only [houtline]
      cases n.operator.isNegated <;> rfl
    | leading | trailing | within => simp [hf] at h

/-- A rendered condition has a normal form, and its text is that of the normal form's clause. -/
theorem toSql_eq_sql {d : Dialect} {c : Condition} {text : String} (h : c.toSql d = .sql text) :
    ∃ n q, c.isSupported = true ∧ c.normalized = .ok n ∧ clauseOf? n = some q ∧
      text = q.text d := by
  unfold Condition.toSql clause? at h
  cases hs : c.isSupported with
  | false => simp [hs] at h
  | true =>
    cases hn : c.normalized with
    | error e => simp [hs, hn] at h
    | ok n =>
      cases hq : clauseOf? n with
      | none => simp [hs, hn, hq] at h
      | some q =>
        simp only [hs, hn, hq, if_true, Fragment.sql.injEq] at h
        exact ⟨n, q, rfl, rfl, hq, h.symm⟩

/-- **No operand leaves its literal.**  The rendered text of a condition, read by the literal rules
    of its dialect, does not end inside a literal; its literals are the ones that are meant for the
    normal form, in order, and what stands around them is an outline that is settled by the
    dialect, the column, the operator, the value type, the number of tokens and whether there is a
    character to escape. -/
theorem toSql_reads_back (d : Dialect) (c : Condition) (text : String)
    (hcol : '\'' ∉ c.identifier.toList) (h : c.toSql d = .sql text) :
    ∃ n ms, c.normalized = .ok n ∧ marks? d text.toList = some ms ∧
      literals ms = literalsOf d n ∧
      outline ms = outlineOf d c.identifier c.operator c.valueType n.tokens.length
        (hasWildcard (operandText n)) := by
  obtain ⟨n, q, _, hn, hq, rfl⟩ := toSql_eq_sql h
  obtain ⟨hid, htype, hop⟩ := Condition.normalized_keeps hn
  have hqcol : '\'' ∉ q.column.toList := by rwa [clauseOf?_column hq, hid]
  obtain ⟨hliterals, houtline⟩ := clauseOf?_marks d hq
  rw [hid, htype, hop] at houtline
  exact ⟨n, q.marks d, hn, marks?_text d hqcol, hliterals, houtline⟩

/-- A quote, a backslash and a wildcard side by side, in the dialect where all three are escaped. -/
theorem toSql_reads_back_hostile :
    '\'' ∉ "name".toList ∧
    Condition.toSql .mysql
      { identifier := "name", valueType := .text, operator := .contains,
        operand := some (.text "'\\%") } = .sql "(name LIKE '%''\\\\\\\\\\\\%%')" ∧
    ∃ n ms, Condition.normalized
        { identifier := "name", valueType := .text, operator := .contains,
          operand := some (.text "'\\%") } = .ok n ∧
      marks? .mysql "(name LIKE '%''\\\\\\\\\\\\%%')".toList = some ms ∧
      literals ms = literalsOf .mysql n ∧
      outline ms = outlineOf .mysql "name" .contains .text n.tokens.length
        (hasWildcard (operandText n)) :=
  ⟨by decide, rfl, toSql_reads_back .mysql _ _ (by decide) rfl⟩

end Criteria.Sql
