/-
  Criteria/Sql/Clause.lean
  ========================
  **Clauses of a relational query.**  A clause is one parenthesised group of
  tests on one column, joined by `OR` or by `AND`.  Its text is a sequence of
  pieces, each either code or a string literal; only literals are quoted, each
  dialect by its own rule, and the column is written as it is given.

  `Dialect.quote` mirrors `quote`, `likePieces` mirrors `like`, `dayPieces` mirrors
  `relative_day`, and `memberPieces` mirrors `token_member`.
-/
import Criteria.Text.Blank
import Criteria.Text.Digits

namespace Criteria.Sql

/-! ### Dialects -/

inductive Dialect where
  | mysql
  | postgresql
  | sqlite
  deriving DecidableEq, Repr

namespace Dialect

def name : Dialect → String
  | mysql => "mysql"
  | postgresql => "postgresql"
  | sqlite => "sqlite"

def names : List (String × Dialect) :=
  [("mysql", mysql), ("postgresql", postgresql), ("postgres", postgresql), ("sqlite", sqlite)]

def ofName? (s : String) : Option Dialect :=
  (names.find? fun n => Text.sameName n.1.toList (Text.trim s.toList)).map (·.2)

end Dialect

/-! ### Literals -/

/-- A character inside a string literal: a quote is doubled, and where a backslash escapes, so is
    a backslash. -/
def Dialect.escape (d : Dialect) (c : Char) : List Char :=
  if c = '\'' then ['\'', '\'']
  else if c = '\\' ∧ d = .mysql then ['\\', '\\']
  else [c]

def Dialect.quote (d : Dialect) (cs : List Char) : List Char :=
  '\'' :: (cs.flatMap d.escape ++ ['\''])

inductive Piece where
  | code (cs : List Char)
  | literal (cs : List Char)
  deriving DecidableEq, Repr

def Piece.text (d : Dialect) : Piece → List Char
  | code cs => cs
  | literal cs => d.quote cs

/-! ### Tests -/

inductive Comparison where
  | eq
  | ne
  | gt
  | ge
  | lt
  | le
  deriving DecidableEq, Repr

def Comparison.sign : Comparison → String
  | eq => "="
  | ne => "<>"
  | gt => ">"
  | ge => ">="
  | lt => "<"
  | le => "<="

inductive Atom where
  | compare (c : Comparison) (literal : List Char)
  /-- The column is null, or is not. -/
  | null (negated : Bool)
  /-- The column matches a pattern, or does not; the pattern escapes by backslash. -/
  | like (negated : Bool) (pattern : List Char) (escapes : Bool)
  /-- The column's day is today, shifted. -/
  | onDay (days : Int)
  /-- The column's comma-separated members hold this one, or do not. -/
  | member (negated : Bool) (token : List Char)
  deriving DecidableEq, Repr

def notText (negated : Bool) : String := if negated then "NOT " else ""

/-- The pieces of a test that the column is on a day. -/
def dayPieces (d : Dialect) (column : String) (days : Int) : List Piece :=
  let number := Text.digits days.natAbs
  let sign := if days < 0 then " - " else " + "
  match d with
  | .mysql =>
    if days = 0 then [.code ("DATE(" ++ column ++ ") = DATE(NOW())").toList]
    else [.code (("DATE(" ++ column ++ ") = DATE(NOW()" ++ sign ++ "INTERVAL ").toList ++ number
      ++ " DAY)".toList)]
  | .postgresql =>
    let today := "CAST(" ++ column ++ " AS DATE) = CURRENT_DATE"
    if days = 0 then [.code today.toList]
    else [.code (today ++ sign ++ "INTERVAL ").toList, .literal (number ++ " day".toList)]
  | .sqlite =>
    let shift := if days = 0 then []
      else [.code ", ".toList, .literal (Text.signedDigits days ++ " day".toList)]
    [.code ("date(" ++ column ++ ") = date(").toList, .literal "now".toList] ++ shift
      ++ [.code ")".toList]

def memberPieces (d : Dialect) (column : String) (negated : Bool) (token : List Char) :
    List Piece :=
  match d with
  | .mysql =>
    [.code (notText negated ++ "FIND_IN_SET(").toList, .literal token,
      .code (", " ++ column ++ ")").toList]
  | .postgresql =>
    let test := [.literal token, .code (" = ANY(string_to_array(" ++ column ++ ", ").toList,
      .literal ",".toList, .code "))".toList]
    if negated then .code "NOT (".toList :: (test ++ [.code ")".toList]) else test
  | .sqlite =>
    [.code "instr(".toList, .literal ",".toList, .code (" || " ++ column ++ " || ").toList,
      .literal ",".toList, .code ", ".toList, .literal (',' :: (token ++ [','])),
      .code (") " ++ (if negated then "=" else ">") ++ " 0").toList]

/-- The pieces of a pattern test.  SQLite patterns escape only where a clause says so. -/
def likePieces (d : Dialect) (column : String) (negated : Bool) (pattern : List Char)
    (escapes : Bool) : List Piece :=
  let test := [.code (column ++ " " ++ notText negated ++ "LIKE ").toList, .literal pattern]
  if d = .sqlite ∧ escapes then test ++ [.code " ESCAPE ".toList, .literal ['\\']] else test

def Atom.pieces (d : Dialect) (column : String) : Atom → List Piece
  | compare c literal => [.code (column ++ " " ++ c.sign ++ " ").toList, .literal literal]
  | null negated => [.code (column ++ " IS " ++ notText negated ++ "NULL").toList]
  | like negated pattern escapes => likePieces d column negated pattern escapes
  | onDay days => dayPieces d column days
  | member negated token => memberPieces d column negated token

/-! ### Clauses -/

inductive Connective where
  | or
  | and
  deriving DecidableEq, Repr

def Connective.text : Connective → List Char
  | or => " OR ".toList
  | and => " AND ".toList

/-- A group of tests on one column. -/
structure Clause where
  column : String
  connective : Connective
  atoms : List Atom
  deriving DecidableEq, Repr

def joined (d : Dialect) (column : String) (c : Connective) : List Atom → List Piece
  | [] => []
  | [a] => a.pieces d column
  | a :: as => a.pieces d column ++ .code c.text :: joined d column c as

/-- The pieces of a clause: its tests in parentheses. -/
def Clause.pieces (d : Dialect) (c : Clause) : List Piece :=
  .code ['('] :: (joined d c.column c.connective c.atoms ++ [.code [')']])

def Clause.text (d : Dialect) (c : Clause) : String :=
  String.ofList ((c.pieces d).flatMap (Piece.text d))

end Criteria.Sql
