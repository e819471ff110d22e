/-
  Criteria/Toml/Number.lean
  =========================
  **Numbers, dates and times of TOML.**  Digits may be parted by single
  underscores.  A date or a time is kept as its text in full: a `T` between the
  two, no zeros at the end of a fraction, a zone as `Z` or as hours and minutes.
-/
import Criteria.Calendar.Date
import Criteria.Number.Reading
import Criteria.Text.Bases
import Criteria.Toml

namespace Criteria.Toml

open Text

/-! ### Digits -/

/-- Each underscore stands between two digits, and the last character is a digit. -/
def isGrouped : (afterDigit : Bool) → List Char → Bool
  | after, [] => after
  | after, c :: cs => if c = '_' then after && isGrouped false cs else isGrouped true cs

/-- Digits with underscores between them, which are left out, and what follows; no digits where they
    stand otherwise. -/
def takeGrouped (test : Char → Bool) (cs : List Char) : List Char × List Char :=
  let run := cs.takeWhile fun c => test c || c = '_'
  if isGrouped false run then (run.filter (· ≠ '_'), cs.drop run.length) else ([], cs)

def takeSign : List Char → List Char × List Char
  | '+' :: cs => (['+'], cs)
  | '-' :: cs => (['-'], cs)
  | cs => ([], cs)

/-- A whole number to base ten, with its sign; a zero in front stands alone. -/
def takeDecimal? (cs : List Char) : Option (List Char × List Char) :=
  let (sign, cs) := takeSign cs
  match cs with
  | '0' :: cs => some (sign ++ ['0'], cs)
  | cs =>
    let (ds, rest) := takeGrouped isDigit cs
    if ds.isEmpty then none else some (sign ++ ds, rest)

/-! ### Numbers -/

def takeBased? (base : Nat) (cs : List Char) : Option (Toml × List Char) :=
  let (ds, rest) := takeGrouped (isDigitOf base) cs
  (readBase base ds).bind fun n => if fitsSigned 64 n then some (.int n, rest) else none

def takeInt? (cs : List Char) : Option (Toml × List Char) :=
  match cs with
  | '0' :: 'x' :: cs => takeBased? 16 cs
  | '0' :: 'o' :: cs => takeBased? 8 cs
  | '0' :: 'b' :: cs => takeBased? 2 cs
  | cs => (takeDecimal? cs).bind fun (ds, rest) =>
      ((readInt ds).filter (fitsSigned 64)).map fun i => (.int i, rest)

def takePower? : List Char → Option (List Char × List Char)
  | [] => none
  | c :: cs =>
    if c = 'e' ∨ c = 'E' then
      let (sign, cs) := takeSign cs
      let (ds, rest) := takeGrouped isDigit cs
      if ds.isEmpty then none else some ('e' :: sign ++ ds, rest)
    else none

/-- A decimal with a fraction, a power of ten or both, as it is written without its underscores. -/
def takeFloatText? (cs : List Char) : Option (List Char × List Char) :=
  (takeDecimal? cs).bind fun (whole, cs) =>
    match cs with
    | '.' :: cs =>
      let (ds, rest) := takeGrouped isDigit cs
      if ds.isEmpty then none
      else match takePower? rest with
        | some (power, rest) => some (whole ++ '.' :: ds ++ power, rest)
        | none => some (whole ++ '.' :: ds, rest)
    | cs => (takePower? cs).map fun (power, rest) => (whole ++ power, rest)

/-- A decimal.  One that is too great is refused; one that is too small is an infinity. -/
def takeFloat? (cs : List Char) : Option (Toml × List Char) :=
  (takeFloatText? cs).bind fun (ds, rest) =>
    (Binary64.read? ds).bind fun x =>
      if x = .infinite false then none else some (.float x, rest)

def takeNamed? (cs : List Char) : Option (Toml × List Char) :=
  let (sign, cs) := takeSign cs
  if "inf".toList.isPrefixOf cs then some (.float (.infinite (sign == ['-'])), cs.drop 3)
  else if "nan".toList.isPrefixOf cs then some (.float .nan, cs.drop 3)
  else none

/-! ### Dates and times -/

def takeNumberIn? (places lo hi : Nat) (cs : List Char) : Option (Nat × List Char) :=
  let (ds, rest) := takeDigits places cs
  let n := digitsValue ds
  if ds.length = places ∧ lo ≤ n ∧ n ≤ hi then some (n, rest) else none

def takeMark? (c : Char) : List Char → Option (List Char)
  | [] => none
  | d :: cs => if d = c then some cs else none

def takeDate? (cs : List Char) : Option (List Char × List Char) := do
  let (year, cs) ← takeNumberIn? 4 0 9999 cs
  let cs ← takeMark? '-' cs
  let (month, cs) ← takeNumberIn? 2 1 12 cs
  let cs ← takeMark? '-' cs
  let (day, cs) ← takeNumberIn? 2 1 (Calendar.daysIn year month) cs
  return (fixedDigits 4 year ++ '-' :: fixedDigits 2 month ++ '-' :: fixedDigits 2 day, cs)

/-- The fraction of a second, as its text: nine digits count, zeros at the end do not. -/
def takeFraction (cs : List Char) : List Char × List Char :=
  match cs with
  | '.' :: r =>
    let ds := r.takeWhile isDigit
    if ds.isEmpty then ([], cs)
    else
      let kept := ((ds.take 9).reverse.dropWhile (· = '0')).reverse
      (if kept.isEmpty then [] else '.' :: kept, r.dropWhile isDigit)
  | cs => ([], cs)

def takeTime? (cs : List Char) : Option (List Char × List Char) := do
  let (hour, cs) ← takeNumberIn? 2 0 23 cs
  let cs ← takeMark? ':' cs
  let (minute, cs) ← takeNumberIn? 2 0 59 cs
  let cs ← takeMark? ':' cs
  let (second, cs) ← takeNumberIn? 2 0 60 cs
  let (fraction, cs) := takeFraction cs
  return (fixedDigits 2 hour ++ ':' :: fixedDigits 2 minute ++ ':' :: fixedDigits 2 second
    ++ fraction, cs)

/-- A zone of some hours and minutes after its sign, as its text; none at all has a plus. -/
def takeShift? (sign : Char) (cs : List Char) : Option (List Char × List Char) := do
  let (hour, cs) ← takeNumberIn? 2 0 23 cs
  let cs ← takeMark? ':' cs
  let (minute, cs) ← takeNumberIn? 2 0 59 cs
  let sign := if hour = 0 ∧ minute = 0 then '+' else sign
  return (sign :: fixedDigits 2 hour ++ ':' :: fixedDigits 2 minute, cs)

def takeZone? : List Char → Option (List Char × List Char)
  | [] => none
  | c :: cs =>
    if c = 'Z' ∨ c = 'z' then some (['Z'], cs)
    else if c = '+' ∨ c = '-' then takeShift? c cs
    else none

def takeTimeOfDate? : List Char → Option (List Char × List Char)
  | [] => none
  | c :: cs =>
    if c = 'T' ∨ c = 't' ∨ c = ' ' then
      (takeTime? cs).map fun (time, cs) =>
        match takeZone? cs with
        | some (zone, cs) => ('T' :: time ++ zone, cs)
        | none => ('T' :: time, cs)
    else none

def takeMoment? (cs : List Char) : Option (Toml × List Char) :=
  match takeDate? cs with
  | some (date, cs) =>
    match takeTimeOfDate? cs with
    | some (time, cs) => some (.moment (date ++ time), cs)
    | none => some (.moment date, cs)
  | none => (takeTime? cs).map fun (time, cs) => (.moment time, cs)

end Criteria.Toml
