/-
  Criteria/Proofs/Sql/Readback.lean
  =================================
  **The expression of a clause.**  `Atom.expr` says what each test is in the query
  language of a dialect, and `chainExpr` joins the tests of a clause.
  `expression?_text` says that the text of a clause is read as just this
  expression, whatever its literals hold: what is said about expressions from here
  on is said about the rendered text.

  The reader goes down one level of precedence after the other, so there is one
  lemma for each level; a test is read the same whatever follows it in a clause
  (`Ending`), and the tests of a clause are read one after the other.
-/
import Criteria.Proofs.Sql.Tokens

namespace Criteria.Sql

/-! ### The expression of a test -/

def dayExpr (d : Dialect) (days : Int) : Expr :=
  let day : Expr := .apply .day .column
  let backwards : Bool := days < 0
  match d with
  | .mysql =>
    let now : Expr := .constant .now
    .compare .eq day (.apply .day (if days = 0 then now
      else .shift backwards now (.apply .span (.number days.natAbs))))
  | .postgresql =>
    let today : Expr := .constant .currentDay
    .compare .eq day (if days = 0 then today
      else .shift backwards today
        (.apply .span (.literal (Text.digits days.natAbs ++ " day".toList))))
  | .sqlite =>
    let now : Expr := .literal "now".toList
    .compare .eq day (if days = 0 then .apply .day now
      else .apply₂ .day now (.literal (Text.signedDigits days ++ " day".toList)))

def memberExpr (d : Dialect) (negated : Bool) (token : List Char) : Expr :=
  let denied (e : Expr) : Expr := if negated then .not e else e
  match d with
  | .mysql => denied (.apply₂ .findInSet (.literal token) .column)
  | .postgresql =>
    denied (.anyOf (.literal token) (.apply₂ .stringToArray .column (.literal [','])))
  | .sqlite =>
    .compare (if negated then .eq else .gt)
      (.apply₂ .instr (.concat (.literal [',']) (.concat .column (.literal [','])))
        (.literal (',' :: (token ++ [','])))) (.number 0)

/-- The expression of a test. -/
def Atom.expr (d : Dialect) : Atom → Expr
  | compare c literal => .compare c .column (.literal literal)
  | null negated => .isNull negated .column
  | like negated pattern escapes =>
    .like negated .column (.literal pattern) (if d = .sqlite ∧ escapes then some ['\\'] else none)
  | onDay days => dayExpr d days
  | member negated token => memberExpr d negated token

/-! ### One level after the other -/

/-- What may follow a test in a clause. -/
inductive Ending : List Token → Prop
  | closing (ts : List Token) : Ending (.closing :: ts)
  | or (w : List Char) (ts : List Token) : Ending (.word .or w :: ts)
  | and (w : List Char) (ts : List Token) : Ending (.word .and w :: ts)

/-- Whether an operand goes on. -/
def continues : List Token → Bool
  | .word .join _ :: _ | .word .plus _ :: _ | .word .minus _ :: _ => true
  | _ => false

theorem Ending.continues_eq {ts : List Token} (h : Ending ts) : continues ts = false := by
  cases h <;> rfl

theorem Ending.not_opening {ts : List Token} (h : Ending ts) : ts.head? ≠ some .opening := by
  cases h <;> simp

variable {name : List Char}

theorem operand_column {column : List Char} (hcol : IsColumn column) (n : Nat) {ts : List Token}
    (hts : ts.head? ≠ some .opening) :
    operand column (n + 1) (columnToken column :: ts) = some (.column, ts) := by
  have hfree := hcol.free
  unfold columnToken
  -- A name that is also the name of a function is a column where no parenthesis follows.
  cases hk : keywordOf column <;> simp only [hk, Keyword.isReserved, reduceCtorEq] at hfree <;>
    (cases ts with
     | nil => simp [operand]
     | cons t ts => cases t <;> simp_all [operand])

theorem sum_of_operand {n : Nat} {ts rest : List Token} {a : Expr}
    (h : operand name n ts = some (a, rest)) (hrest : continues rest = false) :
    sum name (n + 1) ts = some (a, rest) := by
  rw [sum, h]
  unfold continues at hrest
  split at hrest <;> simp_all

theorem sum_join {n : Nat} {ts us rest : List Token} {a b : Expr} (w : List Char)
    (h : operand name n ts = some (a, .word .join w :: us)) (hus : sum name n us = some (b, rest)) :
    sum name (n + 1) ts = some (.concat a b, rest) := by
  simp only [sum, h, hus, Option.map_some]

theorem sum_literal (name : List Char) (n : Nat) (cs : List Char) {rest : List Token}
    (hrest : continues rest = false) :
    sum name (n + 2) (.literal cs :: rest) = some (.literal cs, rest) :=
  sum_of_operand rfl hrest

theorem sum_column (hcol : IsColumn name) (n : Nat) {rest : List Token}
    (hopening : rest.head? ≠ some .opening) (hrest : continues rest = false) :
    sum name (n + 2) (columnToken name :: rest) = some (.column, rest) :=
  sum_of_operand (operand_column hcol n hopening) hrest

theorem negation_of_sum {n : Nat} {ts rest : List Token} {a : Expr}
    (hnot : ∀ w us, ts ≠ .word .not w :: us) (h : sum name n ts = some (a, rest)) :
    negation name (n + 1) ts = test name n a rest := by
  rw [negation, h]
  intro w us hts
  exact hnot w us hts

theorem negation_of_operand {n : Nat} {ts rest : List Token} {a : Expr}
    (hnot : ∀ w us, ts ≠ .word .not w :: us) (h : operand name n ts = some (a, rest))
    (hrest : Ending rest) : negation name (n + 2) ts = some (a, rest) := by
  rw [negation_of_sum hnot (sum_of_operand h hrest.continues_eq)]
  cases hrest <;> rfl

theorem negation_column (hcol : IsColumn name) (n : Nat) {rest : List Token}
    (hopening : rest.head? ≠ some .opening) (hrest : continues rest = false) :
    negation name (n + 3) (columnToken name :: rest) = test name (n + 2) .column rest := by
  refine negation_of_sum (fun w us h => ?_) (sum_column hcol n hopening hrest)
  have hk : keywordOf name = .not := (Token.word.inj (List.cons.inj h).1).1
  have hfree := hcol.free
  rw [hk] at hfree
  exact absurd hfree (by decide)

theorem operand_parenthesised {n : Nat} {ts rest : List Token} {a : Expr}
    (h : negation name n ts = some (a, .closing :: rest)) :
    operand name (n + 3) (.opening :: ts) = some (a, rest) := by
  simp only [operand, disjunction, conjunction, h]

theorem negation_not {n : Nat} {ts rest : List Token} {a : Expr} (w : List Char)
    (h : negation name n ts = some (a, rest)) :
    negation name (n + 1) (.word .not w :: ts) = some (.not a, rest) := by
  rw [negation, h, Option.map_some]

theorem operand_call {n : Nat} {k : Keyword} {f : Function} (hk : functionOf k = some f)
    (w : List Char) (ts : List Token) :
    operand name (n + 1) (.word k w :: .opening :: ts) = call name n f ts := by
  cases k <;> simp_all [functionOf, operand]

theorem call_one {n : Nat} {ts rest : List Token} {a : Expr} (f : Function)
    (hts : ts.head? ≠ some .closing) (ha : sum name n ts = some (a, .closing :: rest)) :
    call name (n + 1) f ts = some (.apply f a, rest) := by
  rw [call, ha]
  rintro us rfl
  exact hts rfl

theorem call_two {n : Nat} {ts us rest : List Token} {a b : Expr} (f : Function)
    (hts : ts.head? ≠ some .closing) (ha : sum name n ts = some (a, .comma :: us))
    (hb : sum name n us = some (b, .closing :: rest)) :
    call name (n + 1) f ts = some (.apply₂ f a b, rest) := by
  rw [call, ha]
  · simp only [hb]
  · rintro us rfl
    exact hts rfl

theorem test_compare {n : Nat} (c : Comparison) (w : List Char) (a : Expr) {ts rest : List Token}
    {b : Expr} (hts : ∀ u us, ts ≠ .word .any u :: us) (h : sum name n ts = some (b, rest)) :
    test name (n + 1) a (.word (.compare c) w :: ts) = some (.compare c a b, rest) := by
  cases c with
  | eq =>
    rw [test, h]
    · rfl
    · intro u us heq _
      exact hts u _ heq
  | ne | gt | ge | lt | le => simp only [test, h, Option.map_some]

/-- A word of the query language that no parenthesis follows. -/
theorem operand_word {n : Nat} {ts : List Token} (k : Keyword) {w : List Char} (hw : w ≠ name)
    (hts : ts.head? ≠ some .opening) :
    operand name (n + 1) (.word k w :: ts) =
      match k with
      | .number m => some (.number m, ts)
      | .currentDate => some (.constant .currentDay, ts)
      | .interval => interval ts
      | _ => none := by
  cases ts with
  | nil => cases k <;> simp [operand, hw]
  | cons t ts => cases t <;> cases k <;> simp_all [operand]

/-! ### Tests -/

theorem negation_compare (d : Dialect) (hcol : IsColumn name) (c : Comparison) (l : List Char)
    (n : Nat) {rest : List Token} (hrest : Ending rest) :
    negation name (n + 5) ((Atom.compare c l).tokens d name ++ rest) =
      some ((Atom.compare c l).expr d, rest) := by
  have hliteral := sum_literal name (n + 1) l hrest.continues_eq
  rw [Atom.tokens, List.cons_append, negation_column hcol (n + 2) (by simp) rfl]
  exact test_compare c _ _ (by simp) hliteral

theorem negation_null (d : Dialect) (hcol : IsColumn name) (negated : Bool) (n : Nat)
    (rest : List Token) :
    negation name (n + 5) ((Atom.null negated).tokens d name ++ rest) =
      some ((Atom.null negated).expr d, rest) := by
  rw [Atom.tokens, List.cons_append, negation_column hcol (n + 2) (by simp) rfl]
  cases negated <;> rfl

theorem negation_like (d : Dialect) (hcol : IsColumn name) (negated : Bool) (p : List Char)
    (escapes : Bool) (n : Nat) {rest : List Token} (hrest : Ending rest) :
    negation name (n + 5) ((Atom.like negated p escapes).tokens d name ++ rest) =
      some ((Atom.like negated p escapes).expr d, rest) := by
  rw [Atom.tokens, List.cons_append,
    negation_column hcol (n + 2) (by cases negated <;> simp [notTokens]) (by cases negated <;> rfl)]
  by_cases hescapes : d = .sqlite ∧ escapes
  · rw [Atom.expr, if_pos hescapes, if_pos hescapes]
    cases negated <;> rfl
  · rw [Atom.expr, if_neg hescapes, if_neg hescapes]
    cases negated <;> cases hrest <;> rfl

theorem negation_findInSet (hcol : IsColumn name) (t : List Char) (n : Nat) {rest : List Token}
    (hrest : Ending rest) :
    negation name (n + 8) (memberTokens .mysql name false t ++ rest) =
      some (memberExpr .mysql false t, rest) := by
  have hcolumn : sum name (n + 4) (columnToken name :: .closing :: rest) =
      some (.column, .closing :: rest) := sum_column hcol (n + 2) (by simp) rfl
  have htoken : sum name (n + 4) (.literal t :: .comma :: columnToken name :: .closing :: rest) =
      some (.literal t, .comma :: columnToken name :: .closing :: rest) :=
    sum_literal name (n + 2) t rfl
  refine negation_of_operand (by simp [memberTokens, notTokens]) ?_ hrest
  exact (operand_call rfl _ _).trans (call_two .findInSet (by simp) htoken hcolumn)

theorem negation_anyOf (hcol : IsColumn name) (t : List Char) (n : Nat) (rest : List Token) :
    negation name (n + 8) (memberTokens .postgresql name false t ++ rest) =
      some (memberExpr .postgresql false t, rest) := by
  have hcolumn : sum name (n + 3)
      (columnToken name :: .comma :: .literal [','] :: .closing :: .closing :: rest) =
        some (.column, .comma :: .literal [','] :: .closing :: .closing :: rest) :=
    sum_column hcol (n + 1) (by simp) rfl
  have hcomma : sum name (n + 3) (.literal [','] :: .closing :: .closing :: rest) =
      some (.literal [','], .closing :: .closing :: rest) := sum_literal name (n + 1) [','] rfl
  have harray : sum name (n + 6) (.word .stringToArray "string_to_array".toList :: .opening ::
      columnToken name :: .comma :: .literal [','] :: .closing :: .closing :: rest) =
        some (.apply₂ .stringToArray .column (.literal [',']), .closing :: rest) := by
    refine sum_of_operand ?_ rfl
    exact (operand_call rfl _ _).trans
      (call_two .stringToArray (by simp [columnToken]) hcolumn hcomma)
  rw [memberTokens, if_neg (by decide), List.cons_append,
    negation_of_sum (by simp) (sum_literal name (n + 5) t rfl)]
  simp only [List.cons_append, List.nil_append, test, harray]
  rfl

theorem negation_instr (hcol : IsColumn name) (negated : Bool) (t : List Char) (n : Nat)
    {rest : List Token} (hrest : Ending rest) :
    negation name (n + 9) (memberTokens .sqlite name negated t ++ rest) =
      some (memberExpr .sqlite negated t, rest) := by
  have hpadded : ∀ us, sum name (n + 5) (.literal [','] :: .word .join "||".toList ::
      columnToken name :: .word .join "||".toList :: .literal [','] :: .comma :: us) =
        some (.concat (.literal [',']) (.concat .column (.literal [','])), .comma :: us) := by
    intro us
    refine sum_join "||".toList rfl (sum_join "||".toList ?_ (sum_literal name (n + 1) [','] rfl))
    exact operand_column hcol (n + 2) (by simp)
  have hcall : ∀ us, operand name (n + 7) (.word .instr "instr".toList :: .opening ::
      .literal [','] :: .word .join "||".toList :: columnToken name :: .word .join "||".toList ::
        .literal [','] :: .comma :: .literal (',' :: (t ++ [','])) :: .closing :: us) =
          some (.apply₂ .instr (.concat (.literal [',']) (.concat .column (.literal [','])))
            (.literal (',' :: (t ++ [',']))), us) := fun us =>
    (operand_call rfl _ _).trans
      (call_two .instr (by simp) (hpadded _) (sum_literal name (n + 3) _ rfl))
  have hzero : sum name (n + 7) (.word (.number 0) ['0'] :: rest) = some (.number 0, rest) := by
    refine sum_of_operand ?_ hrest.continues_eq
    exact operand_word (.number 0) (hcol.ne_of_isReserved rfl) hrest.not_opening
  cases negated with
  | false =>
    refine (negation_of_sum (by simp) (sum_of_operand (hcall _) rfl)).trans ?_
    exact test_compare .gt _ _ (by simp) hzero
  | true =>
    refine (negation_of_sum (by simp) (sum_of_operand (hcall _) rfl)).trans ?_
    exact test_compare .eq _ _ (by simp) hzero

theorem negation_member (d : Dialect) (hcol : IsColumn name) (negated : Bool) (t : List Char)
    (n : Nat) {rest : List Token} (hrest : Ending rest) :
    negation name (n + 16) (memberTokens d name negated t ++ rest) =
      some (memberExpr d negated t, rest) := by
  cases d with
  | mysql =>
    cases negated with
    | false => exact negation_findInSet hcol t (n + 8) hrest
    | true => exact negation_not _ (negation_findInSet hcol t (n + 7) hrest)
  | postgresql =>
    cases negated with
    | false => exact negation_anyOf hcol t (n + 8) rest
    | true =>
      have htest := negation_anyOf hcol t (n + 2) (.closing :: rest)
      rw [memberTokens, if_pos rfl, List.append_assoc, List.cons_append, List.append_assoc]
      exact negation_not _ (negation_of_operand (by simp) (operand_parenthesised htest) hrest)
  | sqlite => exact negation_instr hcol negated t (n + 7) hrest

theorem sum_dayOf (hcol : IsColumn name) (n : Nat) (w : List Char) {rest : List Token}
    (hrest : continues rest = false) :
    sum name (n + 5) (.word .date w :: .opening :: columnToken name :: .closing :: rest) =
      some (.apply .day .column, rest) := by
  refine sum_of_operand ?_ hrest
  exact (operand_call rfl _ _).trans
    (call_one .day (by simp [columnToken]) (sum_column hcol n (by simp) rfl))

theorem sum_cast (hcol : IsColumn name) (n : Nat) (w u v : List Char) {rest : List Token}
    (hrest : continues rest = false) :
    sum name (n + 4) (.word .cast w :: .opening :: columnToken name :: .word .as u ::
      .word .date v :: .closing :: rest) = some (.apply .day .column, rest) := by
  refine sum_of_operand ?_ hrest
  rw [operand, sum_column hcol n (by simp) rfl]

theorem sum_shift {n : Nat} {ts us rest : List Token} {a b : Expr} (days : Int)
    (h : operand name n ts =
      some (a, (if days < 0 then .word .minus ['-'] else .word .plus ['+']) :: us))
    (hus : operand name n us = some (b, rest)) :
    sum name (n + 1) ts = some (.shift (days < 0) a b, rest) := by
  by_cases hsign : days < 0
  · rw [if_pos hsign] at h
    simp [sum, h, hus, hsign]
  · rw [if_neg hsign] at h
    simp [sum, h, hus, hsign]

theorem negation_day (d : Dialect) (hcol : IsColumn name) (days : Int) (n : Nat)
    {rest : List Token} (hrest : Ending rest) :
    negation name (n + 16) (dayTokens d name days ++ rest) = some (dayExpr d days, rest) := by
  have hinterval : "INTERVAL".toList ≠ name := hcol.ne_of_isReserved rfl
  cases d with
  | mysql =>
    have hnow : ∀ k us, operand name (k + 2)
        (.word .now "NOW".toList :: .opening :: .closing :: us) = some (.constant .now, us) :=
      fun k us => operand_call rfl _ _
    by_cases hday : days = 0
    · rw [dayTokens, dayExpr, if_pos hday, if_pos hday]
      refine (negation_of_sum (by simp) (sum_dayOf hcol _ _ rfl)).trans ?_
      refine test_compare .eq _ _ (by simp) (sum_of_operand ?_ hrest.continues_eq)
      exact (operand_call rfl _ _).trans (call_one .day (by simp) (sum_of_operand (hnow _ _) rfl))
    · rw [dayTokens, dayExpr, if_neg hday, if_neg hday]
      refine (negation_of_sum (by simp) (sum_dayOf hcol _ _ rfl)).trans ?_
      refine test_compare .eq _ _ (by simp) (sum_of_operand ?_ hrest.continues_eq)
      refine (operand_call rfl _ _).trans (call_one .day (by simp) (sum_shift days (hnow _ _) ?_))
      exact operand_word .interval hinterval (by simp)
  | postgresql =>
    have htoday : "CURRENT_DATE".toList ≠ name := hcol.ne_of_isReserved rfl
    by_cases hday : days = 0
    · rw [dayTokens, dayExpr, if_pos hday, if_pos hday]
      refine (negation_of_sum (by simp) (sum_cast hcol _ _ _ _ rfl)).trans ?_
      refine test_compare .eq _ _ (by simp) (sum_of_operand ?_ hrest.continues_eq)
      exact operand_word .currentDate htoday hrest.not_opening
    · rw [dayTokens, dayExpr, if_neg hday, if_neg hday]
      refine (negation_of_sum (by simp) (sum_cast hcol _ _ _ _ rfl)).trans ?_
      refine test_compare .eq _ _ (by simp) (sum_shift days
        (operand_word .currentDate htoday ?_) (operand_word .interval hinterval (by simp)))
      split <;> simp
  | sqlite =>
    by_cases hday : days = 0
    · rw [dayTokens, dayExpr, if_pos hday, if_pos hday]
      refine (negation_of_sum (by simp) (sum_dayOf hcol _ _ rfl)).trans ?_
      refine test_compare .eq _ _ (by simp) (sum_of_operand ?_ hrest.continues_eq)
      exact (operand_call rfl _ _).trans (call_one .day (by simp) (sum_literal name _ _ rfl))
    · rw [dayTokens, dayExpr, if_neg hday, if_neg hday]
      refine (negation_of_sum (by simp) (sum_dayOf hcol _ _ rfl)).trans ?_
      refine test_compare .eq _ _ (by simp) (sum_of_operand ?_ hrest.continues_eq)
      exact (operand_call rfl _ _).trans
        (call_two .day (by simp) (sum_literal name _ _ rfl) (sum_literal name _ _ rfl))

/-- **The tokens of a test are read as its expression.** -/
theorem negation_atom (d : Dialect) (hcol : IsColumn name) (a : Atom) (n : Nat) {rest : List Token}
    (hrest : Ending rest) :
    negation name (n + 16) (a.tokens d name ++ rest) = some (a.expr d, rest) := by
  cases a with
  | compare c l => exact negation_compare d hcol c l (n + 11) hrest
  | null negated => exact negation_null d hcol negated (n + 11) rest
  | like negated p escapes => exact negation_like d hcol negated p escapes (n + 11) hrest
  | onDay days => exact negation_day d hcol days n hrest
  | member negated t => exact negation_member d hcol negated t n hrest

/-! ### Clauses -/

def Connective.chain (k : Connective) (e : Expr) : List Expr → Expr
  | [] => e
  | f :: fs =>
    match k with
    | .or => .or e (k.chain f fs)
    | .and => .and e (k.chain f fs)

/-- The expression of a clause of at least one test. -/
def chainExpr (d : Dialect) (k : Connective) (a : Atom) (as : List Atom) : Expr :=
  k.chain (a.expr d) (as.map (Atom.expr d))

theorem chainExpr_or_cons (d : Dialect) (a b : Atom) (bs : List Atom) :
    chainExpr d .or a (b :: bs) = .or (a.expr d) (chainExpr d .or b bs) := rfl

theorem chainExpr_and_cons (d : Dialect) (a b : Atom) (bs : List Atom) :
    chainExpr d .and a (b :: bs) = .and (a.expr d) (chainExpr d .and b bs) := rfl

def Connective.token : Connective → Token
  | or => .word .or "OR".toList
  | and => .word .and "AND".toList

def joinedTokens (d : Dialect) (column : List Char) (k : Connective) : List Atom → List Token
  | [] => []
  | [a] => a.tokens d column
  | a :: as => a.tokens d column ++ k.token :: joinedTokens d column k as

theorem tokensFrom_joined (d : Dialect) (hcol : IsColumn column.toList) (k : Connective)
    (as : List Atom) :
    tokensFrom [] ((joined d column k as).flatMap Piece.marks) =
      joinedTokens d column.toList k as := by
  induction as with
  | nil => rfl
  | cons a as ih =>
    cases as with
    | nil => exact tokensFrom_atom d hcol a
    | cons b bs =>
      have hbegins : begins (k.text.map .plain ++
          (joined d column k (b :: bs)).flatMap Piece.marks) = true := by
        cases k <;> rfl
      have hends : ends (k.text.map .plain) = true := by cases k <;> rfl
      have htext : tokensFrom [] (k.text.map .plain) = [k.token] := by cases k <;> rfl
      simp only [joined, List.flatMap_append, List.flatMap_cons, Piece.marks, joinedTokens] at ih ⊢
      rw [tokensFrom_append_of_begins [] _ hbegins, tokensFrom_append_of_ends [] hends,
        tokensFrom_atom d hcol, ih, htext, List.singleton_append]

theorem conjunction_atom (d : Dialect) (hcol : IsColumn name) (a : Atom) (n : Nat)
    {rest : List Token} (hrest : Ending rest) (hand : ∀ w us, rest ≠ .word .and w :: us) :
    conjunction name (n + 17) (a.tokens d name ++ rest) = some (a.expr d, rest) := by
  rw [conjunction, negation_atom d hcol a n hrest]
  cases hrest with
  | closing ts => rfl
  | or w ts => rfl
  | and w ts => exact absurd rfl (hand w ts)

theorem conjunction_joined (d : Dialect) (hcol : IsColumn name) (a : Atom) (as : List Atom)
    (n : Nat) (rest : List Token) :
    conjunction name (n + as.length + 17) (joinedTokens d name .and (a :: as) ++ .closing :: rest) =
      some (chainExpr d .and a as, .closing :: rest) := by
  -- Each test of the chain takes one level of the bound.
  induction as generalizing a n with
  | nil => exact conjunction_atom d hcol a n (.closing rest) (by simp)
  | cons b bs ih =>
    have hatom := negation_atom d hcol a (n + bs.length + 1)
      (.and "AND".toList (joinedTokens d name .and (b :: bs) ++ .closing :: rest))
    have hrest := ih b n
    simp only [joinedTokens, List.append_assoc, List.cons_append, Connective.token] at hatom hrest ⊢
    rw [List.length_cons, show n + (bs.length + 1) + 17 = (n + bs.length + 1 + 16) + 1 by omega,
      conjunction, hatom]
    simp only [hrest, Option.map_some]
    rfl

theorem disjunction_joined (d : Dialect) (hcol : IsColumn name) (a : Atom) (as : List Atom)
    (n : Nat) (rest : List Token) :
    disjunction name (n + as.length + 18) (joinedTokens d name .or (a :: as) ++ .closing :: rest) =
      some (chainExpr d .or a as, .closing :: rest) := by
  induction as generalizing a n with
  | nil =>
    rw [joinedTokens, List.length_nil, disjunction,
      conjunction_atom d hcol a n (.closing rest) (by simp)]
    rfl
  | cons b bs ih =>
    have hatom := conjunction_atom d hcol a (n + bs.length + 1)
      (.or "OR".toList (joinedTokens d name .or (b :: bs) ++ .closing :: rest)) (by simp)
    have hrest := ih b n
    simp only [joinedTokens, List.append_assoc, List.cons_append, Connective.token] at hatom hrest ⊢
    rw [List.length_cons, show n + (bs.length + 1) + 18 = (n + bs.length + 1 + 17) + 1 by omega,
      disjunction, hatom]
    simp only [hrest, Option.map_some]
    rfl

theorem disjunction_chain (d : Dialect) (hcol : IsColumn name) (k : Connective) (a : Atom)
    (as : List Atom) (n : Nat) (rest : List Token) :
    disjunction name (n + as.length + 18) (joinedTokens d name k (a :: as) ++ .closing :: rest) =
      some (chainExpr d k a as, .closing :: rest) := by
  cases k with
  | or => exact disjunction_joined d hcol a as n rest
  | and => rw [disjunction, conjunction_joined d hcol a as n rest]

theorem length_tokens_pos (d : Dialect) (column : List Char) (a : Atom) :
    1 ≤ (a.tokens d column).length := by
  cases a with
  | compare c l => exact Nat.le_add_left 1 _
  | null negated => exact Nat.le_add_left 1 _
  | like negated p escapes => exact Nat.le_add_left 1 _
  | onDay days => cases d <;> exact Nat.le_add_left 1 _
  | member negated t => cases d <;> cases negated <;> exact Nat.le_add_left 1 _

/-- A test has a token at least, and so has a connective. -/
theorem length_joinedTokens (d : Dialect) (column : List Char) (k : Connective) (a : Atom)
    (as : List Atom) : 2 * as.length + 1 ≤ (joinedTokens d column k (a :: as)).length := by
  induction as generalizing a with
  | nil => exact length_tokens_pos d column a
  | cons b bs ih =>
    have hhead := length_tokens_pos d column a
    have htail := ih b
    simp only [joinedTokens, List.length_append, List.length_cons] at htail ⊢
    omega

/-- A group in parentheses is an expression by itself. -/
theorem disjunction_group {n : Nat} {ts : List Token} {e : Expr}
    (h : disjunction name n ts = some (e, [.closing])) :
    disjunction name (n + 5) (.opening :: ts) = some (e, []) := by
  have hoperand : operand name (n + 1) (.opening :: ts) = some (e, []) := by
    rw [operand, h]
  have hnegation := negation_of_sum (by simp) (sum_of_operand hoperand rfl)
  rw [disjunction, conjunction, hnegation]
  rfl

/-- **The text of a clause is read as the chain of its tests.** -/
theorem expression?_text (d : Dialect) (hcol : IsColumn column.toList) (k : Connective) (a : Atom)
    (as : List Atom) :
    expression? d column.toList (Clause.text d ⟨column, k, a :: as⟩).toList =
      some (chainExpr d k a as) := by
  have htokens : tokensFrom [] ((Clause.pieces d ⟨column, k, a :: as⟩).flatMap Piece.marks) =
      .opening :: (joinedTokens d column.toList k (a :: as) ++ [.closing]) := by
    rw [Clause.pieces, List.flatMap_cons, List.flatMap_append, List.flatMap_singleton, Piece.marks,
      Piece.marks, tokensFrom_append_of_ends [] rfl, tokensFrom_append_of_begins [] _ rfl,
      tokensFrom_joined d hcol]
    rfl
  have hlength := length_joinedTokens d column.toList k a as
  obtain ⟨n, hn⟩ : ∃ n, 8 * (Token.opening :: (joinedTokens d column.toList k (a :: as) ++
      [.closing])).length = n + as.length + 18 + 5 := by
    refine ⟨8 * (joinedTokens d column.toList k (a :: as)).length + 16 - (as.length + 23), ?_⟩
    simp only [List.length_cons, List.length_append, List.length_nil]
    omega
  rw [expression?, marks?_text d hcol.noQuote, Option.map_some, htokens]
  simp only [hn, disjunction_group (disjunction_chain d hcol k a as n [])]

end Criteria.Sql
