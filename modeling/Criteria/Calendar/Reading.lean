/-
  Criteria/Calendar/Reading.lean
  ==============================
  **Date-times in text.**  A layout is a list of items, each of which takes some
  text off the front: numbers of limited width after optional white space, fixed
  marks, white space of any amount, a fraction of a second.  A date-time is read
  by the first layout that uses the whole text up; then by the internet form,
  whose offset is checked and dropped; then as a bare date, which is midnight.

  `readDateTime` mirrors `parse_time`.
-/
import Criteria.Calendar.DateTime
import Criteria.Number.Powers
import Criteria.Text.Blank

namespace Criteria.Calendar

open Text

/-- The numbers collected from a text; what a layout leaves out is the start of the day. -/
structure Fields where
  year : Int := 0
  month : Nat := 0
  day : Nat := 0
  hour : Nat := 0
  minute : Nat := 0
  second : Nat := 0
  nano : Nat := 0

def Fields.date? (f : Fields) : Option Date := Date.ofParts? f.year f.month f.day

/-- The time collected; second 60 is the leap second after second 59. -/
def Fields.time? (f : Fields) : Option TimeOfDay :=
  if f.second = 60 then TimeOfDay.ofParts? f.hour f.minute 59 (f.nano + 1000000000)
  else TimeOfDay.ofParts? f.hour f.minute f.second f.nano

def Fields.dateTime? (f : Fields) : Option DateTime := do
  return ⟨← f.date?, ← f.time?⟩

/-! ### Items -/

inductive Item where
  | year
  | month
  | day
  | hour
  | minute
  | second
  | fraction
  | blanks
  | mark (c : Char)
  deriving DecidableEq, Repr

/-- A number of one to `most` digits after optional white space. -/
def takeNumber (most : Nat) (cs : List Char) : Option (Nat × List Char) :=
  let (ds, rest) := takeDigits most (dropBlanks cs)
  if ds.isEmpty then none else some (digitsValue ds, rest)

def takeLongNumber (cs : List Char) : Option (Nat × List Char) :=
  let ds := cs.takeWhile isDigit
  if ds.isEmpty then none else some (digitsValue ds, cs.dropWhile isDigit)

/-- A year after optional white space: four digits at most, or a sign and any number of digits. -/
def takeYear (cs : List Char) : Option (Int × List Char) :=
  match dropBlanks cs with
  | '-' :: r => (takeLongNumber r).map fun p => (-(p.1 : Int), p.2)
  | '+' :: r => (takeLongNumber r).map fun p => ((p.1 : Int), p.2)
  | r => (takeNumber 4 r).map fun p => ((p.1 : Int), p.2)

/-- The nanoseconds that the digits of a fraction write; digits past the ninth are dropped. -/
def nanoOf (ds : List Char) : Nat :=
  digitsValue (ds.take 9) * tenTo (9 - ds.length)

def takeFraction : List Char → Option (Nat × List Char)
  | '.' :: cs =>
    let ds := cs.takeWhile isDigit
    if ds.isEmpty then none else some (nanoOf ds, cs.dropWhile isDigit)
  | cs => some (0, cs)

def takeMark (c : Char) : List Char → Option (List Char)
  | [] => none
  | d :: cs => if d = c then some cs else none

def Item.take (f : Fields) (cs : List Char) : Item → Option (Fields × List Char)
  | .year => (takeYear cs).map fun p => ({ f with year := p.1 }, p.2)
  | .month => (takeNumber 2 cs).map fun p => ({ f with month := p.1 }, p.2)
  | .day => (takeNumber 2 cs).map fun p => ({ f with day := p.1 }, p.2)
  | .hour => (takeNumber 2 cs).map fun p => ({ f with hour := p.1 }, p.2)
  | .minute => (takeNumber 2 cs).map fun p => ({ f with minute := p.1 }, p.2)
  | .second => (takeNumber 2 cs).map fun p => ({ f with second := p.1 }, p.2)
  | .fraction => (takeFraction cs).map fun p => ({ f with nano := p.1 }, p.2)
  | .blanks => some (f, dropBlanks cs)
  | .mark c => (takeMark c cs).map fun r => (f, r)

def takeItems : List Item → Fields → List Char → Option (Fields × List Char)
  | [], f, cs => some (f, cs)
  | i :: is, f, cs => (i.take f cs).bind fun p => takeItems is p.1 p.2

def readWith (layout : List Item) (cs : List Char) : Option Fields :=
  match takeItems layout {} cs with
  | some (f, []) => some f
  | _ => none

/-! ### Layouts -/

def dateItems : List Item := [.year, .mark '-', .month, .mark '-', .day]

def minuteItems : List Item := [.hour, .mark ':', .minute]

def secondItems : List Item := minuteItems ++ [.mark ':', .second, .fraction]

/-- The layouts of a date-time, in the order they are tried. -/
def layouts : List (List Item) :=
  [dateItems ++ .blanks :: secondItems,
   dateItems ++ .mark 'T' :: secondItems,
   dateItems ++ .blanks :: minuteItems,
   dateItems ++ .mark 'T' :: minuteItems]

/-! ### The internet form -/

def takeFixed (places : Nat) (cs : List Char) : Option (Nat × List Char) :=
  let (ds, rest) := takeDigits places cs
  if ds.length = places then some (digitsValue ds, rest) else none

/-- A zone: `Z` in either case, or a sign (the minus sign of typography included) with two digits of
    hours up to 23 and two of minutes up to 59. -/
def isZone : List Char → Bool
  | [] => false
  | c :: cs =>
    if c = 'Z' ∨ c = 'z' then cs.isEmpty
    else if c = '+' ∨ c = '-' ∨ c = '\u2212' then
      match takeFixed 2 cs with
      | some (h, ':' :: r) =>
        match takeFixed 2 r with
        | some (m, []) => h < 24 && m < 60
        | _ => false
      | _ => false
    else false

/-- A date-time in the internet form: every field of fixed width, a zone at the end.  The reading is
    that of the wall clock in the zone written. -/
def readInternet (cs : List Char) : Option DateTime := do
  let (year, cs) ← takeFixed 4 cs
  let cs ← takeMark '-' cs
  let (month, cs) ← takeFixed 2 cs
  let cs ← takeMark '-' cs
  let (day, cs) ← takeFixed 2 cs
  let cs ← takeMark 'T' cs <|> takeMark 't' cs <|> takeMark ' ' cs
  let (hour, cs) ← takeFixed 2 cs
  let cs ← takeMark ':' cs
  let (minute, cs) ← takeFixed 2 cs
  let cs ← takeMark ':' cs
  let (second, cs) ← takeFixed 2 cs
  let (nano, cs) ← takeFraction cs
  if isZone cs then
    Fields.dateTime? { year, month, day, hour, minute, second, nano }
  else none

def readDate (cs : List Char) : Option Date := (readWith dateItems cs).bind Fields.date?

/-- The date-time a text writes, white space around it aside. -/
def readDateTime (text : List Char) : Option DateTime :=
  let cs := trim text
  layouts.findSome? (fun l => (readWith l cs).bind Fields.dateTime?)
    <|> readInternet cs
    <|> (readDate cs).map fun d => ⟨d, .midnight⟩

end Criteria.Calendar
