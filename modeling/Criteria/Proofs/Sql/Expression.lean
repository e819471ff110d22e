/-
  Criteria/Proofs/Sql/Expression.lean
  ===================================
  **Expressions of the query language and what they mean on a row.**  This is the
  reference semantics of the clauses: it knows the operators and functions of the
  three dialects as a store knows them, and nothing of conditions.  A row has one
  column, which holds nothing or a text that stands for its value.

  Truth has three values.  A comparison, a pattern test or a function of nothing
  is unknown, and a row is selected only by an expression that is true of it.
  Patterns escape by backslash where the dialect does so of itself, and where an
  `ESCAPE` clause says so.
-/
import Criteria.Proofs.Text.Wildcard
import Criteria.Sql.Clause

namespace Criteria.Sql

/-! ### Three-valued truth -/

abbrev Truth := Option Bool

namespace Truth

def not (t : Truth) : Truth := t.map Bool.not

def and : Truth → Truth → Truth
  | some false, _ => some false
  | _, some false => some false
  | some true, some true => some true
  | _, _ => none

def or : Truth → Truth → Truth
  | some true, _ => some true
  | _, some true => some true
  | some false, some false => some false
  | _, _ => none

@[simp] theorem not_some (b : Bool) : not (some b) = some !b := rfl

theorem and_eq_true (s t : Truth) : and s t = some true ↔ s = some true ∧ t = some true := by
  rcases s with _ | _ | _ <;> rcases t with _ | _ | _ <;> simp [and]

theorem or_eq_true (s t : Truth) : or s t = some true ↔ s = some true ∨ t = some true := by
  rcases s with _ | _ | _ <;> rcases t with _ | _ | _ <;> simp [or]

end Truth

/-! ### Values -/

inductive Datum where
  | null
  | text (cs : List Char)
  | number (i : Int)
  | truth (b : Bool)
  | texts (items : List (List Char))
  | day (n : Int)
  /-- An instant; no clause asks it for more than its day. -/
  | moment (day : Int)
  /-- A length of time in whole days. -/
  | span (days : Int)
  deriving DecidableEq, Repr

namespace Datum

def isNull : Datum → Bool
  | null => true
  | _ => false

/-- A value as a truth: numbers other than zero are true. -/
def truth? : Datum → Truth
  | truth b => some b
  | number i => some (i != 0)
  | _ => none

def ofTruth : Truth → Datum
  | some b => truth b
  | none => null

@[simp] theorem truth?_ofTruth (t : Truth) : (ofTruth t).truth? = t := by
  cases t <;> rfl

end Datum

/-- What a row holds in the column of a clause, and what the store knows beside it. -/
structure Row where
  /-- The text that stands for the column's value, if there is one. -/
  value : Option (List Char)
  /-- How the store compares the column with a literal. -/
  order : List Char → List Char → Ordering
  /-- The number of the current day. -/
  today : Int
  /-- The number of the day that a text writes. -/
  dayOf : List Char → Option Int

def byCodePoint : List Char → List Char → Ordering
  | [], [] => .eq
  | [], _ :: _ => .lt
  | _ :: _, [] => .gt
  | a :: as, b :: bs => (compare a.toNat b.toNat).then (byCodePoint as bs)

theorem byCodePoint_eq_iff (as bs : List Char) : byCodePoint as bs = .eq ↔ as = bs := by
  induction as generalizing bs with
  | nil => cases bs <;> simp [byCodePoint]
  | cons a as ih =>
    cases bs with
    | nil => simp [byCodePoint]
    | cons b bs =>
      simp only [byCodePoint, Ordering.then_eq_eq, ih, Nat.compare_eq_eq, List.cons.injEq]
      constructor
      · rintro ⟨hcode, htail⟩
        exact ⟨Char.toNat_inj.mp hcode, htail⟩
      · rintro ⟨rfl, htail⟩
        exact ⟨rfl, htail⟩

/-- The values that two values of one kind compare as. -/
def Datum.order? (row : Row) : Datum → Datum → Option Ordering
  | .text a, .text b => some (row.order a b)
  | .number a, .number b => some (compare a b)
  | .day a, .day b => some (compare a b)
  | _, _ => none

def Comparison.accepts : Comparison → Ordering → Bool
  | eq, o => o == .eq
  | ne, o => o != .eq
  | gt, o => o == .gt
  | ge, o => o != .lt
  | lt, o => o == .lt
  | le, o => o != .gt

/-! ### Functions -/

inductive Function where
  | findInSet
  | stringToArray
  | instr
  /-- The day of an instant or of a text. -/
  | day
  | now
  | currentDay
  | span
  deriving DecidableEq, Repr

/-- The place of an item in a list, counted from one, and zero where it has none. -/
def place (t : List Char) (items : List (List Char)) : Nat :=
  if t ∈ items then items.idxOf t + 1 else 0

/-- The place of the first occurrence of a text in another, counted from one, and zero where there
    is none. -/
def occurrence (p : List Char) : List Char → Nat
  | [] => if p.isEmpty then 1 else 0
  | c :: cs =>
    if p.isPrefixOf (c :: cs) then 1
    else match occurrence p cs with
      | 0 => 0
      | n + 1 => n + 2

/-- The parts of a text between separators; the empty text has none. -/
def parts (sep : Char) (x : List Char) : List (List Char) :=
  if x.isEmpty then [] else x.splitOn sep

/-- A number of days as it is written in an interval. -/
def readDays (cs : List Char) : Option Int :=
  let number := cs.takeWhile (· != ' ')
  if cs.drop number.length = " day".toList then Text.readInt number else none

def Function.constant (row : Row) : Function → Datum
  | now => .moment row.today
  | currentDay => .day row.today
  | _ => .null

def Function.apply (d : Dialect) (row : Row) : Function → Datum → Datum
  | day, .text cs =>
    if d = .sqlite ∧ cs = "now".toList then .day row.today
    else match row.dayOf cs with
      | some n => .day n
      | none => .null
  | day, .moment n | day, .day n => .day n
  | span, .number i => .span i
  | span, .text cs =>
    match readDays cs with
    | some n => .span n
    | none => .null
  | _, _ => .null

def Function.apply₂ (d : Dialect) (row : Row) : Function → Datum → Datum → Datum
  | findInSet, .text t, .text x => .number (place t (parts ',' x))
  | stringToArray, .text x, .text [sep] => .texts (parts sep x)
  | instr, .text x, .text p => .number (occurrence p x)
  | day, a, .text m =>
    match day.apply d row a, readDays m with
    | .day n, some k => .day (n + k)
    | _, _ => .null
  | _, _, _ => .null

/-! ### Expressions -/

/-- An expression on a row with one column. -/
inductive Expr where
  | column
  | literal (cs : List Char)
  | number (n : Nat)
  | constant (f : Function)
  | apply (f : Function) (a : Expr)
  | apply₂ (f : Function) (a b : Expr)
  | concat (a b : Expr)
  /-- A day or an instant moved by an interval, backwards or forwards. -/
  | shift (backwards : Bool) (a b : Expr)
  | compare (c : Comparison) (a b : Expr)
  | isNull (negated : Bool) (a : Expr)
  /-- A pattern test, with the text of its `ESCAPE` clause. -/
  | like (negated : Bool) (a p : Expr) (escape : Option (List Char))
  /-- Equality with some item of an array. -/
  | anyOf (a b : Expr)
  | not (a : Expr)
  | and (a b : Expr)
  | or (a b : Expr)
  deriving DecidableEq, Repr

def patternLanguage (d : Dialect) (clause : Option (List Char)) : Wildcard.Language :=
  { many := '%'
    one := '_'
    escape :=
      match clause with
      | some [c] => some c
      | some _ => none
      | none => if d = .sqlite then none else some '\\' }

def Datum.concat : Datum → Datum → Datum
  | .text s, .text t => .text (s ++ t)
  | _, _ => .null

def Datum.shift (backwards : Bool) : Datum → Datum → Datum
  | .day n, .span k => .day (if backwards then n - k else n + k)
  | .moment n, .span k => .moment (if backwards then n - k else n + k)
  | _, _ => .null

def Datum.matches (l : Wildcard.Language) (negated : Bool) : Datum → Datum → Datum
  | .text s, .text p => .truth (Wildcard.matches? (l.read p) s != negated)
  | _, _ => .null

def Datum.isItem : Datum → Datum → Datum
  | .text t, .texts items => .truth (items.contains t)
  | _, _ => .null

def Expr.eval (d : Dialect) (row : Row) : Expr → Datum
  | column =>
    match row.value with
    | some cs => .text cs
    | none => .null
  | literal cs => .text cs
  | number n => .number n
  | constant f => f.constant row
  | apply f a => f.apply d row (a.eval d row)
  | apply₂ f a b => f.apply₂ d row (a.eval d row) (b.eval d row)
  | concat a b => (a.eval d row).concat (b.eval d row)
  | shift backwards a b => (a.eval d row).shift backwards (b.eval d row)
  | compare c a b => .ofTruth (((a.eval d row).order? row (b.eval d row)).map c.accepts)
  | isNull negated a => .truth ((a.eval d row).isNull != negated)
  | like negated a p escape =>
    (a.eval d row).matches (patternLanguage d escape) negated (p.eval d row)
  | anyOf a b => (a.eval d row).isItem (b.eval d row)
  | not a => .ofTruth (a.eval d row).truth?.not
  | and a b => .ofTruth ((a.eval d row).truth?.and (b.eval d row).truth?)
  | or a b => .ofTruth ((a.eval d row).truth?.or (b.eval d row).truth?)

def Expr.truth (d : Dialect) (row : Row) (e : Expr) : Truth := (e.eval d row).truth?

@[simp] theorem Expr.truth_and (d : Dialect) (row : Row) (a b : Expr) :
    (Expr.and a b).truth d row = (a.truth d row).and (b.truth d row) := by
  simp only [Expr.truth, Expr.eval, Datum.truth?_ofTruth]

@[simp] theorem Expr.truth_or (d : Dialect) (row : Row) (a b : Expr) :
    (Expr.or a b).truth d row = (a.truth d row).or (b.truth d row) := by
  simp only [Expr.truth, Expr.eval, Datum.truth?_ofTruth]

end Criteria.Sql
