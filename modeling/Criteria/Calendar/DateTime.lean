/-
  Criteria/Calendar/DateTime.lean
  ===============================
  **Wall-clock date-times.**  A date with a time of day to the nanosecond.  A
  leap second is a nanosecond count of a whole second or more.  A time can have
  such a count after any second, and its text then has the number of the second
  behind, which is 60 only after 59; that is the one place where a clock shows a
  leap second, and where the parts of a time are put together with one
  (`ofParts?`).
-/
import Criteria.Calendar.Date
import Criteria.Text.Digits

namespace Criteria

namespace Calendar

/-- Every second can run on for as long again. -/
def ValidTime (hour minute second nano : Nat) : Prop :=
  hour < 24 ∧ minute < 60 ∧ second < 60 ∧ nano < 2000000000

instance (hour minute second nano : Nat) : Decidable (ValidTime hour minute second nano) := by
  unfold ValidTime; infer_instance

/-- A clock shows a leap second after second 59 alone. -/
def Shown (second nano : Nat) : Prop := nano < 1000000000 ∨ second = 59

instance (second nano : Nat) : Decidable (Shown second nano) := inferInstanceAs (Decidable (_ ∨ _))

end Calendar

open Calendar Text

structure TimeOfDay where
  hour : Nat
  minute : Nat
  second : Nat
  nano : Nat
  valid : ValidTime hour minute second nano
  deriving DecidableEq, Repr

namespace TimeOfDay

def ofParts? (hour minute second nano : Nat) : Option TimeOfDay :=
  if h : ValidTime hour minute second nano ∧ Shown second nano then
    some ⟨hour, minute, second, nano, h.1⟩
  else none

def IsShown (t : TimeOfDay) : Prop := Shown t.second t.nano

instance (t : TimeOfDay) : Decidable t.IsShown := inferInstanceAs (Decidable (Shown _ _))

def midnight : TimeOfDay := ⟨0, 0, 0, 0, by decide⟩

def seconds (t : TimeOfDay) : Nat := t.hour * 3600 + t.minute * 60 + t.second

def order (a b : TimeOfDay) : Ordering :=
  (compare a.hour b.hour).then ((compare a.minute b.minute).then
    ((compare a.second b.second).then (compare a.nano b.nano)))

end TimeOfDay

structure DateTime where
  date : Date
  time : TimeOfDay
  deriving DecidableEq, Repr

namespace DateTime

def order (a b : DateTime) : Ordering := (a.date.order b.date).then (a.time.order b.time)

/-! ### Writing -/

/-- A year has at least four digits, and a sign outside the years 0 to 9999. -/
def yearText (year : Int) : List Char :=
  if 0 ≤ year ∧ year ≤ 9999 then fixedDigits 4 year.toNat
  else (if year < 0 then '-' else '+') :: paddedDigits 4 year.natAbs

def dateText (d : Date) : List Char :=
  yearText d.year ++ '-' :: (fixedDigits 2 d.month ++ '-' :: fixedDigits 2 d.day)

/-- Hours, minutes and seconds; a leap second shows as second 60. -/
def clockText (t : TimeOfDay) : List Char :=
  fixedDigits 2 t.hour ++ ':' :: (fixedDigits 2 t.minute ++
    ':' :: fixedDigits 2 (t.second + t.nano / 1000000000))

def fraction (t : TimeOfDay) : Nat := t.nano % 1000000000

/-- A fraction of a second in as many groups of three digits as it needs, none for a whole
    second. -/
def fractionText (n : Nat) : List Char :=
  if n = 0 then []
  else if n % 1000000 = 0 then '.' :: fixedDigits 3 (n / 1000000)
  else if n % 1000 = 0 then '.' :: fixedDigits 6 (n / 1000)
  else '.' :: fixedDigits 9 n

/-- Date and time with a separator between them, and the fraction that the time needs. -/
def textWith (separator : Char) (t : DateTime) : List Char :=
  dateText t.date ++ separator :: (clockText t.time ++ fractionText (fraction t.time))

def text (t : DateTime) : List Char := t.textWith ' '

def textNano (t : DateTime) : List Char :=
  dateText t.date ++ ' ' :: (clockText t.time ++ '.' :: fixedDigits 9 (fraction t.time))

end DateTime

end Criteria
