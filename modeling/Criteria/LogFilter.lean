/-
  Criteria/LogFilter.lean
  =======================
  **Filters of what is logged.**  A filter is a list of directives between
  commas.  A directive names a target, a span with fields in brackets, and a
  level after an equals sign; each may be left out.  The level may also stand
  alone, and then what is no level is a target.

  `Settings.logFilter` mirrors the choice in `init_tracing`.
-/
import Criteria.Number.Reading
import Criteria.Regex.Reading
import Criteria.Settings
import Criteria.Text.Blank
import Criteria.Text.Digits
import Criteria.Text.Letters
import Criteria.Text.Octets

namespace Criteria.LogFilter

open Text

/-! ### Levels -/

/-- The levels, with the one that is most silent first. -/
def levelNames : List String := ["off", "error", "warn", "info", "debug", "trace"]

/-- A level: its name in any case, its number, or nothing at all. -/
def isLevel (cs : List Char) : Bool :=
  let number := match cs with
    | '+' :: ds => readNat ds
    | ds => readNat ds
  cs.isEmpty || levelNames.any (fun n => sameName cs n.toList)
    || number.any fun n => n < levelNames.length

/-! ### Fields -/

/-- The value of a field is a number, or else an expression that is searched for. -/
def isFieldValue (cs : List Char) : Bool := (Binary64.read? cs).isSome || Regex.isWritten cs

/-- A field is not empty: a name, and perhaps a value after an equals sign.  What stands after a
    second equals sign is passed over. -/
def isField (cs : List Char) : Bool :=
  !cs.isEmpty && (cs.splitOn '=')[1]?.all isFieldValue

/-! ### Directives -/

inductive Place where
  | start
  /-- In a name, which may be a target or a level. -/
  | name
  /-- In brackets. -/
  | span
  /-- In braces, from an octet on. -/
  | field (since : Nat)
  | afterFields
  | afterSpan
  /-- After the equals sign, from an octet on. -/
  | level (since : Nat)

def startsName (c : Char) : Bool := c = '-' || c = ':' || c = '_' || isAlphanumeric c

/-- The place after the character at an octet; fields are cut from a whole text. -/
def Place.step (whole : List Char) (i : Nat) (c : Char) : Place → Option Place
  | .start => if c = '[' then some .span else if startsName c then some .name else none
  | .name => some (if c = '=' then .level (i + 1) else if c = '[' then .span else .name)
  | .span => some (if c = ']' then .afterSpan else if c = '\x7b' then .field (i + 1) else .span)
  | .field since =>
    if c = '\x7d' then (if (between? since i whole).any isField then some .afterFields else none)
    else some (.field since)
  | .afterFields => if c = ']' then some .afterSpan else none
  | .afterSpan => if c = '=' then some (.level (i + 1)) else none
  | .level since => some (.level since)

def Place.run (whole : List Char) (i : Nat) : Place → List Char → Option Place
  | p, [] => some p
  | p, c :: cs => (p.step whole i c).bind fun p => p.run whole (i + c.utf8Size) cs

/-- A directive.  Octets are counted without the white space around it, but its fields and its level
    are cut from the text as it stands, so that white space is allowed around a name alone. -/
def isDirective (cs : List Char) : Bool :=
  match Place.start.run cs 0 (trim cs) with
  | some (.level since) => (cut? since cs).any fun r => isLevel r.2
  | some .name | some .afterSpan => true
  | _ => false

/-! ### Filters -/

/-- A filter is a list of directives between commas; empty ones are passed over. -/
def isFilter (cs : List Char) : Bool :=
  (cs.splitOn ',').all fun p => p.isEmpty || isDirective p

end Criteria.LogFilter

namespace Criteria

/-- The filter that is in force: the one of the surroundings, if there is one that can be read, or
    else the log level of the settings, which then has to be one. -/
def Settings.logFilter (s : Settings) (surrounding : Option String) :
    Except SettingsError String :=
  match surrounding.filter fun t => LogFilter.isFilter t.toList with
  | some t => .ok t
  | none =>
    if LogFilter.isFilter s.logLevel.toList then .ok s.logLevel
    else .error (.invalidLogLevel s.logLevel)

end Criteria
