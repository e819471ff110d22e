/-
  Criteria/Calendar/Offset.lean
  =============================
  **Offsets from universal time.**  A zone is a whole number of seconds east of
  universal time, less than a day either way.  It is written with hours and
  minutes; an offset that is not whole minutes loses its seconds.

  `Offset.read?` mirrors `parse_offset`, `Offset.text` mirrors `format_offset`, and
  `DateTime.shiftedToday` mirrors `shifted_today`.
-/
import Criteria.Calendar.DateTime
import Criteria.Text.Blank

namespace Criteria

open Text

/-- A fixed offset, in seconds east of universal time. -/
structure Offset where
  seconds : Int
  bounded : -86400 < seconds ∧ seconds < 86400
  deriving DecidableEq, Repr

namespace Offset

def utc : Offset := ⟨0, by decide⟩

def ofSeconds? (s : Int) : Option Offset :=
  if h : -86400 < s ∧ s < 86400 then some ⟨s, h⟩ else none

def text (z : Offset) : List Char :=
  let s := z.seconds.natAbs
  (if z.seconds < 0 then '-' else '+') ::
    (fixedDigits 2 (s / 3600) ++ ':' :: fixedDigits 2 (s % 3600 / 60))

/-- Hours and minutes of an offset without its sign: divided by a colon, or four characters, or
    hours alone. -/
def hoursAndMinutes (cs : List Char) : List Char × List Char :=
  match cutAt ':' cs with
  | some p => p
  | none => if cs.length = 4 then (cs.take 2, cs.drop 2) else (cs, ['0'])

def readMagnitude (cs : List Char) : Option Int := do
  let (h, m) := hoursAndMinutes cs
  let hours ← readIntIn 0 23 h
  let minutes ← readIntIn 0 59 m
  return hours * 3600 + minutes * 60

/-- The offset a text writes, white space around it aside: `UTC` in any case, `Z`, or a sign and
    a magnitude. -/
def read? (s : List Char) : Option Offset :=
  let cs := trim s
  if sameName cs "utc".toList ∨ cs = ['Z'] then some utc
  else match cs with
    | '+' :: r => (readMagnitude r).bind ofSeconds?
    | '-' :: r => (readMagnitude r).bind fun s => ofSeconds? (-s)
    | _ => none

end Offset

/-! ### Days of a zone -/

/-- The day number that a wall clock in the zone shows at an instant given in universal time. -/
def DateTime.localDay (now : DateTime) (zone : Offset) : Int :=
  now.date.dayNumber + (now.time.seconds + zone.seconds) / 86400

/-- The date that a wall clock in the zone shows; the reading fails where the calendar has none. -/
def DateTime.localDate? (now : DateTime) (zone : Offset) : Option Date :=
  Date.ofDayNumber? (now.localDay zone)

/-- The date in the zone, shifted by a number of days forwards or backwards: there is none where the
    calendar ends before it, and no answer at all where it has no date for today in the zone. -/
def DateTime.shiftedToday (now : DateTime) (zone : Offset) (days : Int64) :
    Option (Option Date) := do
  let today ← now.localDate? zone
  let count := days.abs.toUInt64
  return if 0 ≤ days then today.plusDays? count else today.minusDays? count

end Criteria
