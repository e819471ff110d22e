/-
  Criteria/Proofs/Sql/Tokens.lean
  ===============================
  **The tokens of a test.**  The text of every test is code around the column and
  around literals, and a token never reaches over a blank, a parenthesis, a comma
  or a literal.  So the marks of a test are cut part by part
  (`tokensFrom_append_of_begins`, `tokensFrom_append_of_ends`), and each part is
  either fixed or a single word: the column, or the digits of a number.

  `Atom.tokens` lists the tokens of each test, and `tokensFrom_atom` says that the
  marks of its text are cut into them.
-/
import Criteria.Proofs.Sql.Grammar
import Criteria.Proofs.Text.Blank

namespace Criteria.Sql

/-! ### Cutting marks apart -/

/-- Whether a mark is no part of a word or run. -/
def Mark.isBreak : Mark → Bool
  | .literal _ => true
  | .plain c =>
    match roleOf c with
    | .sign | .letter => false
    | _ => true

def begins (ms : List Mark) : Bool := ms.head?.any Mark.isBreak

def ends (ms : List Mark) : Bool := ms.getLast?.any Mark.isBreak

/-- A word or run ends at a break. -/
theorem tokensFrom_break (run : List Char) {m : Mark} (hm : m.isBreak = true) (ms : List Mark) :
    tokensFrom run (m :: ms) = finish run ++ (tokensFrom [] [m] ++ tokensFrom [] ms) := by
  cases m with
  | literal cs => simp [tokensFrom, finish]
  | plain c => cases hrole : roleOf c <;> simp_all [tokensFrom, finish, Mark.isBreak]

/-- Marks are cut in front of a break as if they ended there. -/
theorem tokensFrom_append_of_begins (run : List Char) (ms : List Mark) {rest : List Mark}
    (h : begins rest = true) :
    tokensFrom run (ms ++ rest) = tokensFrom run ms ++ tokensFrom [] rest := by
  induction ms generalizing run with
  | nil =>
    cases rest with
    | nil => simp [begins] at h
    | cons m rest =>
      have hm : m.isBreak = true := by simpa [begins] using h
      rw [List.nil_append, tokensFrom_break run hm rest, tokensFrom_break [] hm rest]
      rfl
  | cons m ms ih =>
    cases m with
    | literal cs => simp [tokensFrom, ih]
    | plain c =>
      simp only [List.cons_append, tokensFrom, ih]
      cases roleOf c <;> simp <;> split <;> simp [*]

/-- Marks are cut behind a break as if nothing went before. -/
theorem tokensFrom_append_of_ends (run : List Char) {ms : List Mark} (h : ends ms = true)
    (rest : List Mark) :
    tokensFrom run (ms ++ rest) = tokensFrom run ms ++ tokensFrom [] rest := by
  cases hlast : ms.getLast? with
  | none => simp [ends, hlast] at h
  | some m =>
    -- The last mark is a break, so the lemma before cuts in front of it, both with and without
    -- the rest behind it.
    obtain ⟨front, rfl⟩ : ∃ front, ms = front ++ [m] := List.getLast?_eq_some_iff.mp hlast
    have hm : m.isBreak = true := by simpa [ends, hlast] using h
    have hbegins : ∀ ns, begins (m :: ns) = true := fun ns => hm
    rw [List.append_assoc, List.singleton_append,
      tokensFrom_append_of_begins run front (hbegins rest),
      tokensFrom_append_of_begins run front (hbegins []), tokensFrom_break [] hm rest]
    simp [finish]

/-! ### Words of letters -/

theorem tokensFrom_letters {run : List Char} (hrun : run ≠ []) {cs : List Char}
    (h : ∀ c ∈ run ++ cs, roleOf c = .letter) :
    tokensFrom run (cs.map .plain) = finish (run ++ cs) := by
  induction cs generalizing run with
  | nil => simp [tokensFrom]
  | cons c cs ih =>
    have hc : roleOf c = .letter := h c (by simp)
    have hhead : run.head?.map roleOf = some .letter := by
      cases run with
      | nil => exact absurd rfl hrun
      | cons x run => simp [h x (by simp)]
    rw [List.map_cons, tokensFrom]
    simp only [hc, hhead, if_true]
    rw [ih (by simp) (by simpa using h), List.append_assoc, List.singleton_append]

theorem tokensFrom_word {w : List Char} (hw : w ≠ []) (h : ∀ c ∈ w, roleOf c = .letter) :
    tokensFrom [] (w.map .plain) = [.word (keywordOf w) w] := by
  cases w with
  | nil => exact absurd rfl hw
  | cons c cs =>
    have hc : roleOf c = .letter := h c List.mem_cons_self
    rw [List.map_cons, tokensFrom]
    simp only [hc, List.head?_nil, Option.map_none, reduceCtorEq, if_false]
    rw [tokensFrom_letters (by simp) (by simpa using h)]
    rfl

theorem roleOf_digit {c : Char} (h : Text.isDigit c = true) : roleOf c = .letter := by
  have hblank := Text.isBlank_of_isDigit h
  simp [roleOf, hblank, Text.ne_of_isDigit h]

theorem vocabulary_not_digits :
    (vocabulary.all fun p => p.1.any fun c => !Text.isDigit c) = true := by
  decide

theorem toUpper_digit {c : Char} (h : Text.isDigit c = true) : c.toUpper = c := by
  have hrange := Text.toNat_of_isDigit h
  unfold Char.toUpper
  rw [dif_neg]
  rintro ⟨h97, _⟩
  have : 97 ≤ c.toNat := UInt32.le_iff_toNat_le.mp h97
  omega

/-- The digits of a number are a word that stands for it. -/
theorem keywordOf_digits (n : Nat) : keywordOf (Text.digits n) = .number n := by
  have hdigit : ∀ c ∈ Text.digits n, Text.isDigit c = true := fun c hc =>
    Text.isDigit_of_mem_digits hc
  have hupper : (Text.digits n).map Char.toUpper = Text.digits n := by
    rw [List.map_congr_left fun c hc => toUpper_digit (hdigit c hc), List.map_id']
  have hlookup : vocabulary.lookup (Text.digits n) = none := by
    rw [List.lookup_eq_none_iff]
    intro p hp
    obtain ⟨c, hc, hcdigit⟩ := List.any_eq_true.mp (List.all_eq_true.mp vocabulary_not_digits p hp)
    rw [bne_iff_ne]
    intro heq
    rw [← heq] at hc
    rw [hdigit c hc] at hcdigit
    exact absurd hcdigit (by decide)
  rw [keywordOf, hupper, hlookup, Text.readNat_digits]

theorem tokensFrom_digits (n : Nat) :
    tokensFrom [] ((Text.digits n).map .plain) = [.word (.number n) (Text.digits n)] := by
  have hne : Text.digits n ≠ [] := Nat.toDigits_ne_nil
  have hletter : ∀ c ∈ Text.digits n, roleOf c = .letter := fun c hc =>
    roleOf_digit (Text.isDigit_of_mem_digits hc)
  rw [tokensFrom_word hne hletter, keywordOf_digits]

/-! ### The tokens of each test -/

def columnToken (column : List Char) : Token := .word (keywordOf column) column

def notTokens (negated : Bool) : List Token :=
  if negated then [.word .not "NOT".toList] else []

def dayTokens (d : Dialect) (column : List Char) (days : Int) : List Token :=
  let number := Text.digits days.natAbs
  let sign : Token := if days < 0 then .word .minus ['-'] else .word .plus ['+']
  match d with
  | .mysql =>
    [.word .date "DATE".toList, .opening, columnToken column, .closing, .word (.compare .eq) ['='],
      .word .date "DATE".toList, .opening, .word .now "NOW".toList, .opening, .closing] ++
      (if days = 0 then [] else
        [sign, .word .interval "INTERVAL".toList, .word (.number days.natAbs) number,
          .word .day "DAY".toList]) ++ [.closing]
  | .postgresql =>
    [.word .cast "CAST".toList, .opening, columnToken column, .word .as "AS".toList,
      .word .date "DATE".toList, .closing, .word (.compare .eq) ['='],
      .word .currentDate "CURRENT_DATE".toList] ++
      (if days = 0 then [] else
        [sign, .word .interval "INTERVAL".toList, .literal (number ++ " day".toList)])
  | .sqlite =>
    [.word .date "date".toList, .opening, columnToken column, .closing, .word (.compare .eq) ['='],
      .word .date "date".toList, .opening, .literal "now".toList] ++
      (if days = 0 then [] else [.comma, .literal (Text.signedDigits days ++ " day".toList)]) ++
        [.closing]

def memberTokens (d : Dialect) (column : List Char) (negated : Bool) (token : List Char) :
    List Token :=
  match d with
  | .mysql =>
    notTokens negated ++ [.word .findInSet "FIND_IN_SET".toList, .opening, .literal token, .comma,
      columnToken column, .closing]
  | .postgresql =>
    let test : List Token := [.literal token, .word (.compare .eq) ['='], .word .any "ANY".toList,
      .opening, .word .stringToArray "string_to_array".toList, .opening, columnToken column, .comma,
      .literal [','], .closing, .closing]
    if negated then notTokens true ++ .opening :: (test ++ [.closing]) else test
  | .sqlite =>
    [.word .instr "instr".toList, .opening, .literal [','], .word .join "||".toList,
      columnToken column, .word .join "||".toList, .literal [','], .comma,
      .literal (',' :: (token ++ [','])), .closing,
      if negated then .word (.compare .eq) ['='] else .word (.compare .gt) ['>'],
      .word (.number 0) ['0']]

/-- The tokens of a test. -/
def Atom.tokens (d : Dialect) (column : List Char) : Atom → List Token
  | compare c literal => [columnToken column, .word (.compare c) c.sign.toList, .literal literal]
  | null negated =>
    columnToken column :: .word .is "IS".toList :: (notTokens negated ++
      [.word .null "NULL".toList])
  | like negated pattern escapes =>
    columnToken column :: (notTokens negated ++ .word .like "LIKE".toList :: .literal pattern ::
      if d = .sqlite ∧ escapes then [.word .escape "ESCAPE".toList, .literal ['\\']] else [])
  | onDay days => dayTokens d column days
  | member negated token => memberTokens d column negated token

/-! ### The marks of each test -/

variable {column : String}

def code (s : String) : List Mark := s.toList.map .plain

theorem tokensFrom_literal (cs : List Char) (ms : List Mark) :
    tokensFrom [] (.literal cs :: ms) = .literal cs :: tokensFrom [] ms := rfl

theorem tokensFrom_code_column (hcol : IsColumn column.toList) {after : List Mark}
    (hafter : begins after = true) :
    tokensFrom [] (code column ++ after) = columnToken column.toList :: tokensFrom [] after := by
  rw [tokensFrom_append_of_begins [] _ hafter, code,
    tokensFrom_word hcol.nonempty hcol.letter, List.singleton_append]
  rfl

theorem tokensFrom_around (hcol : IsColumn column.toList) {before after : List Mark}
    (hbefore : ends before = true) (hafter : begins after = true) :
    tokensFrom [] (before ++ (code column ++ after)) =
      tokensFrom [] before ++ columnToken column.toList :: tokensFrom [] after := by
  rw [tokensFrom_append_of_ends [] hbefore, tokensFrom_code_column hcol hafter]

theorem tokensFrom_member (d : Dialect) (hcol : IsColumn column.toList) (negated : Bool)
    (token : List Char) :
    tokensFrom [] ((memberPieces d column negated token).flatMap Piece.marks) =
      memberTokens d column.toList negated token := by
  cases d with
  | mysql =>
    have hopen : ends (code (notText negated ++ "FIND_IN_SET(")) = true := by
      cases negated <;> rfl
    have hmarks : (memberPieces .mysql column negated token).flatMap Piece.marks =
        code (notText negated ++ "FIND_IN_SET(") ++ .literal token ::
          (code ", " ++ (code column ++ code ")")) := by
      simp [memberPieces, Piece.marks, code]
    rw [hmarks, tokensFrom_append_of_ends [] hopen, tokensFrom_literal,
      tokensFrom_around hcol rfl rfl]
    cases negated <;> rfl
  | postgresql =>
    -- The denied test is the plain one in parentheses behind a `NOT`.
    have htest : tokensFrom [] (.literal token :: (code " = ANY(string_to_array(" ++
        (code column ++ (code ", " ++ .literal [','] :: code "))")))) =
          memberTokens .postgresql column.toList false token := by
      rw [tokensFrom_literal, tokensFrom_around hcol rfl rfl]
      rfl
    cases negated with
    | false =>
      rw [← htest]
      simp [memberPieces, Piece.marks, code]
    | true =>
      have hmarks : (memberPieces .postgresql column true token).flatMap Piece.marks =
          code "NOT (" ++ (.literal token :: (code " = ANY(string_to_array(" ++
            (code column ++ (code ", " ++ .literal [','] :: code "))"))) ++ code ")") := by
        simp [memberPieces, Piece.marks, code]
      rw [hmarks, tokensFrom_append_of_ends [] rfl, tokensFrom_append_of_begins [] _ rfl, htest]
      rfl
  | sqlite =>
    have hmarks : (memberPieces .sqlite column negated token).flatMap Piece.marks =
        code "instr(" ++ .literal [','] :: (code " || " ++ (code column ++ (code " || " ++
          .literal [','] :: (code ", " ++ .literal (',' :: (token ++ [','])) ::
            code (") " ++ (if negated then "=" else ">") ++ " 0"))))) := by
      simp [memberPieces, Piece.marks, code]
    rw [hmarks, tokensFrom_append_of_ends [] rfl, tokensFrom_literal,
      tokensFrom_around hcol rfl rfl]
    cases negated <;> rfl

theorem tokensFrom_day (d : Dialect) (hcol : IsColumn column.toList) (days : Int) :
    tokensFrom [] ((dayPieces d column days).flatMap Piece.marks) =
      dayTokens d column.toList days := by
  cases d with
  | mysql =>
    by_cases hday : days = 0
    · have hmarks : (dayPieces .mysql column days).flatMap Piece.marks =
          code "DATE(" ++ (code column ++ code ") = DATE(NOW())") := by
        simp [dayPieces, hday, Piece.marks, code]
      rw [hmarks, tokensFrom_around hcol rfl rfl, dayTokens, if_pos hday]
      rfl
    · have hmarks : (dayPieces .mysql column days).flatMap Piece.marks =
          code "DATE(" ++ (code column ++ (code ") = DATE(NOW()" ++
            (code (if days < 0 then " - " else " + ") ++ (code "INTERVAL " ++
              ((Text.digits days.natAbs).map .plain ++ code " DAY)"))))) := by
        simp [dayPieces, hday, Piece.marks, code]
      have hsign : ends (code (if days < 0 then " - " else " + ")) = true := by
        split <;> rfl
      rw [hmarks, tokensFrom_around hcol rfl rfl, tokensFrom_append_of_ends [] rfl,
        tokensFrom_append_of_ends [] hsign, tokensFrom_append_of_ends [] rfl,
        tokensFrom_append_of_begins [] _ rfl, tokensFrom_digits, dayTokens, if_neg hday]
      split <;> rfl
  | postgresql =>
    by_cases hday : days = 0
    · have hmarks : (dayPieces .postgresql column days).flatMap Piece.marks =
          code "CAST(" ++ (code column ++ code " AS DATE) = CURRENT_DATE") := by
        simp [dayPieces, hday, Piece.marks, code]
      rw [hmarks, tokensFrom_around hcol rfl rfl, dayTokens, if_pos hday]
      rfl
    · have hmarks : (dayPieces .postgresql column days).flatMap Piece.marks =
          code "CAST(" ++ (code column ++ (code " AS DATE) = CURRENT_DATE" ++
            (code ((if days < 0 then " - " else " + ") ++ "INTERVAL ") ++
              [.literal (Text.digits days.natAbs ++ " day".toList)]))) := by
        simp [dayPieces, hday, Piece.marks, code]
      rw [hmarks, tokensFrom_around hcol rfl rfl, dayTokens, if_neg hday]
      split <;> rfl
  | sqlite =>
    by_cases hday : days = 0
    · have hmarks : (dayPieces .sqlite column days).flatMap Piece.marks =
          code "date(" ++ (code column ++ (code ") = date(" ++ .literal "now".toList ::
            code ")")) := by
        simp [dayPieces, hday, Piece.marks, code]
      rw [hmarks, tokensFrom_around hcol rfl rfl, dayTokens, if_pos hday]
      rfl
    · have hmarks : (dayPieces .sqlite column days).flatMap Piece.marks =
          code "date(" ++ (code column ++ (code ") = date(" ++ .literal "now".toList ::
            (code ", " ++ .literal (Text.signedDigits days ++ " day".toList) :: code ")"))) := by
        simp [dayPieces, hday, Piece.marks, code]
      rw [hmarks, tokensFrom_around hcol rfl rfl, dayTokens, if_neg hday]
      rfl

/-- **The marks of a test are cut into its tokens.** -/
theorem tokensFrom_atom (d : Dialect) (hcol : IsColumn column.toList) (a : Atom) :
    tokensFrom [] ((a.pieces d column).flatMap Piece.marks) = a.tokens d column.toList := by
  cases a with
  | compare c literal =>
    have hmarks : ((Atom.compare c literal).pieces d column).flatMap Piece.marks =
        code column ++ (code (" " ++ c.sign ++ " ") ++ [.literal literal]) := by
      simp [Atom.pieces, Piece.marks, code]
    have hbegins : begins (code (" " ++ c.sign ++ " ") ++ [.literal literal]) = true := by
      cases c <;> rfl
    rw [hmarks, tokensFrom_code_column hcol hbegins]
    cases c <;> rfl
  | null negated =>
    have hmarks : ((Atom.null negated).pieces d column).flatMap Piece.marks =
        code column ++ code (" IS " ++ notText negated ++ "NULL") := by
      simp [Atom.pieces, Piece.marks, code]
    have hbegins : begins (code (" IS " ++ notText negated ++ "NULL")) = true := by
      cases negated <;> rfl
    rw [hmarks, tokensFrom_code_column hcol hbegins]
    cases negated <;> rfl
  | like negated pattern escapes =>
    have hmarks : ((Atom.like negated pattern escapes).pieces d column).flatMap Piece.marks =
        code column ++ (code (" " ++ notText negated ++ "LIKE ") ++ .literal pattern ::
          if d = .sqlite ∧ escapes then code " ESCAPE " ++ [.literal ['\\']] else []) := by
      simp only [Atom.pieces, likePieces]
      split <;> simp [Piece.marks, code]
    have hends : ends (code (" " ++ notText negated ++ "LIKE ")) = true := by
      cases negated <;> rfl
    rw [hmarks, tokensFrom_code_column hcol (by cases negated <;> rfl),
      tokensFrom_append_of_ends [] hends, tokensFrom_literal, Atom.tokens]
    cases negated <;> split <;> rfl
  | onDay days => exact tokensFrom_day d hcol days
  | member negated token => exact tokensFrom_member d hcol negated token

end Criteria.Sql
