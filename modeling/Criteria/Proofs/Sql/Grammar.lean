/-
  Criteria/Proofs/Sql/Grammar.lean
  ================================
  **From the text of a clause to an expression.**  The marks of a text are cut
  into tokens, and the tokens are read by the precedence of the query language:
  `OR`, `AND`, `NOT`, comparisons, `||` with the shifts of days, operands.  The
  reader is told how the column is spelled and nothing else about where the text
  comes from.

  A column's name is written into a clause as it is given and must be a name
  there: `IsColumn` asks for one word without quotes, blanks, parentheses, commas
  or operator signs that the query language does not reserve for itself.
-/
import Criteria.Proofs.Sql.Expression
import Criteria.Proofs.Sql.Literals

namespace Criteria.Sql

/-! ### Words -/

/-- What the query language makes of a word or of a run of signs. -/
inductive Keyword where
  | or
  | and
  | not
  | is
  | null
  | like
  | escape
  | any
  | cast
  | as
  | date
  | day
  | interval
  | currentDate
  | now
  | findInSet
  | stringToArray
  | instr
  | compare (c : Comparison)
  | join
  | plus
  | minus
  | number (n : Nat)
  | name
  deriving DecidableEq, Repr

/-- The words and signs with a meaning, in capitals. -/
def vocabulary : List (List Char × Keyword) :=
  [("OR".toList, .or), ("AND".toList, .and), ("NOT".toList, .not), ("IS".toList, .is),
   ("NULL".toList, .null), ("LIKE".toList, .like), ("ESCAPE".toList, .escape),
   ("ANY".toList, .any), ("CAST".toList, .cast), ("AS".toList, .as), ("DATE".toList, .date),
   ("DAY".toList, .day), ("INTERVAL".toList, .interval), ("CURRENT_DATE".toList, .currentDate),
   ("NOW".toList, .now), ("FIND_IN_SET".toList, .findInSet),
   ("STRING_TO_ARRAY".toList, .stringToArray), ("INSTR".toList, .instr),
   ("=".toList, .compare .eq), ("<>".toList, .compare .ne), (">".toList, .compare .gt),
   (">=".toList, .compare .ge), ("<".toList, .compare .lt), ("<=".toList, .compare .le),
   ("||".toList, .join), ("+".toList, .plus), ("-".toList, .minus)]

/-- The meaning of a word, in whatever case its letters are. -/
def keywordOf (w : List Char) : Keyword :=
  match vocabulary.lookup (w.map Char.toUpper), Text.readNat w with
  | some k, _ => k
  | none, some n => .number n
  | none, none => .name

/-! ### Tokens -/

inductive Token where
  | literal (cs : List Char)
  | opening
  | closing
  | comma
  /-- A word or a run of signs, with its meaning and its spelling. -/
  | word (k : Keyword) (w : List Char)
  deriving DecidableEq, Repr

/-- What a character does outside of literals. -/
inductive Role where
  | blank
  | opening
  | closing
  | comma
  | sign
  | letter
  deriving DecidableEq, Repr

def roleOf (c : Char) : Role :=
  if Text.isBlank c then .blank
  else if c = '(' then .opening
  else if c = ')' then .closing
  else if c = ',' then .comma
  else if c = '=' ∨ c = '<' ∨ c = '>' ∨ c = '|' ∨ c = '+' ∨ c = '-' then .sign
  else .letter

/-- The token of a finished word or run. -/
def finish (run : List Char) : List Token :=
  if run.isEmpty then [] else [.word (keywordOf run) run]

/-- The tokens of marks, of which the first belong to a word or run that has begun before. -/
def tokensFrom (run : List Char) : List Mark → List Token
  | [] => finish run
  | .literal cs :: ms => finish run ++ .literal cs :: tokensFrom [] ms
  | .plain c :: ms =>
    match roleOf c with
    | .blank => finish run ++ tokensFrom [] ms
    | .opening => finish run ++ .opening :: tokensFrom [] ms
    | .closing => finish run ++ .closing :: tokensFrom [] ms
    | .comma => finish run ++ .comma :: tokensFrom [] ms
    | role =>
      if run.head?.map roleOf = some role then tokensFrom (run ++ [c]) ms
      else finish run ++ tokensFrom [c] ms

/-! ### Expressions -/

def functionOf : Keyword → Option Function
  | .findInSet => some .findInSet
  | .stringToArray => some .stringToArray
  | .instr => some .instr
  | .date => some .day
  | .now => some .now
  | _ => none

/-- The `ESCAPE` clause of a pattern test, if it has one. -/
def pattern (negated : Bool) (a p : Expr) : List Token → Option (Expr × List Token)
  | .word .escape _ :: .literal cs :: ts => some (.like negated a p (some cs), ts)
  | ts => some (.like negated a p none, ts)

/-- The length of an interval: a number and its unit, or a text that has both. -/
def interval : List Token → Option (Expr × List Token)
  | .word (.number m) _ :: .word .day _ :: ts => some (.apply .span (.number m), ts)
  | .literal cs :: ts => some (.apply .span (.literal cs), ts)
  | _ => none

mutual

/-- Expressions joined by `OR`.  The first argument bounds the depth of the reading. -/
def disjunction (column : List Char) : Nat → List Token → Option (Expr × List Token)
  | 0, _ => none
  | n + 1, ts =>
    match conjunction column n ts with
    | some (a, .word .or _ :: ts) => (disjunction column n ts).map fun r => (.or a r.1, r.2)
    | r => r

def conjunction (column : List Char) : Nat → List Token → Option (Expr × List Token)
  | 0, _ => none
  | n + 1, ts =>
    match negation column n ts with
    | some (a, .word .and _ :: ts) => (conjunction column n ts).map fun r => (.and a r.1, r.2)
    | r => r

def negation (column : List Char) : Nat → List Token → Option (Expr × List Token)
  | 0, _ => none
  | n + 1, .word .not _ :: ts => (negation column n ts).map fun r => (.not r.1, r.2)
  | n + 1, ts =>
    match sum column n ts with
    | some (a, ts) => test column n a ts
    | none => none

/-- What may follow the first operand of a test; nothing if the operand is all. -/
def test (column : List Char) : Nat → Expr → List Token → Option (Expr × List Token)
  | 0, _, _ => none
  | _ + 1, a, .word .is _ :: .word .null _ :: ts => some (.isNull false a, ts)
  | _ + 1, a, .word .is _ :: .word .not _ :: .word .null _ :: ts => some (.isNull true a, ts)
  | n + 1, a, .word .like _ :: ts => (sum column n ts).bind fun r => pattern false a r.1 r.2
  | n + 1, a, .word .not _ :: .word .like _ :: ts =>
    (sum column n ts).bind fun r => pattern true a r.1 r.2
  | n + 1, a, .word (.compare .eq) _ :: .word .any _ :: .opening :: ts =>
    match sum column n ts with
    | some (b, .closing :: ts) => some (.anyOf a b, ts)
    | _ => none
  | n + 1, a, .word (.compare c) _ :: ts =>
    (sum column n ts).map fun r => (.compare c a r.1, r.2)
  | _ + 1, a, ts => some (a, ts)

/-- Operands joined by `||`, or moved by an interval. -/
def sum (column : List Char) : Nat → List Token → Option (Expr × List Token)
  | 0, _ => none
  | n + 1, ts =>
    match operand column n ts with
    | some (a, .word .join _ :: ts) => (sum column n ts).map fun r => (.concat a r.1, r.2)
    | some (a, .word .plus _ :: ts) => (operand column n ts).map fun r => (.shift false a r.1, r.2)
    | some (a, .word .minus _ :: ts) => (operand column n ts).map fun r => (.shift true a r.1, r.2)
    | r => r

def operand (column : List Char) : Nat → List Token → Option (Expr × List Token)
  | 0, _ => none
  | _ + 1, .literal cs :: ts => some (.literal cs, ts)
  | n + 1, .opening :: ts =>
    match disjunction column n ts with
    | some (a, .closing :: ts) => some (a, ts)
    | _ => none
  | n + 1, .word .cast _ :: .opening :: ts =>
    match sum column n ts with
    | some (a, .word .as _ :: .word .date _ :: .closing :: ts) => some (.apply .day a, ts)
    | _ => none
  | n + 1, .word k _ :: .opening :: ts =>
    match functionOf k with
    | none => none
    | some f => call column n f ts
  | _ + 1, .word k w :: ts =>
    if w = column then some (.column, ts)
    else match k with
      | .number m => some (.number m, ts)
      | .currentDate => some (.constant .currentDay, ts)
      | .interval => interval ts
      | _ => none
  | _ + 1, _ => none

def call (column : List Char) : Nat → Function → List Token → Option (Expr × List Token)
  | 0, _, _ => none
  | _ + 1, f, .closing :: ts => some (.constant f, ts)
  | n + 1, f, ts =>
    match sum column n ts with
    | some (a, .closing :: ts) => some (.apply f a, ts)
    | some (a, .comma :: ts) =>
      match sum column n ts with
      | some (b, .closing :: ts) => some (.apply₂ f a b, ts)
      | _ => none
    | _ => none

end

/-- The expression of a text in a dialect, for a column that is spelled so.  Every token opens at
    most one level of each kind, so the bound is never reached by what a clause holds. -/
def expression? (d : Dialect) (column : List Char) (text : List Char) : Option Expr :=
  match (marks? d text).map (tokensFrom []) with
  | none => none
  | some ts =>
    match disjunction column (8 * ts.length) ts with
    | some (e, []) => some e
    | _ => none

/-! ### Names of columns -/

/-- A word that cannot be the name of a column. -/
def Keyword.isReserved : Keyword → Bool
  | .name | .date | .day | .now | .findInSet | .stringToArray | .instr => false
  | _ => true

/-- The name of a column: one word that is not reserved. -/
structure IsColumn (column : List Char) : Prop where
  nonempty : column ≠ []
  letter : ∀ c ∈ column, roleOf c = .letter
  noQuote : '\'' ∉ column
  free : (keywordOf column).isReserved = false

instance (column : List Char) : Decidable (IsColumn column) :=
  decidable_of_iff
    (column ≠ [] ∧ (column.all fun c => roleOf c == .letter) = true ∧ '\'' ∉ column ∧
      (keywordOf column).isReserved = false)
    ⟨fun ⟨hne, hletter, hquote, hfree⟩ =>
        ⟨hne, fun c hc => beq_iff_eq.mp (List.all_eq_true.mp hletter c hc), hquote, hfree⟩,
      fun h => ⟨h.nonempty, List.all_eq_true.mpr fun c hc => beq_iff_eq.mpr (h.letter c hc),
        h.noQuote, h.free⟩⟩

theorem IsColumn.ne_of_isReserved {name : List Char} (hcol : IsColumn name) {w : List Char}
    (hw : (keywordOf w).isReserved = true) : w ≠ name := by
  rintro rfl
  rw [hcol.free] at hw
  exact absurd hw (by decide)

end Criteria.Sql
