/-
  Criteria/Proofs/Calendar/Written.lean
  =====================================
  **Date-times read back from their text.**  Every number in the text of a
  date-time has a fixed count of digits, or a sign in front and a mark behind, so
  each item of a layout takes back just the number that was written
  (`takeItems_dateText`, `takeItems_clockText`).  The second 60 is read as the rest
  of second 59, so what is read is the time that the text shows.  Of the layouts,
  which are tried in order, those before the right one stop at the separator.
-/
import Criteria.Calendar.Reading
import Criteria.Proofs.Calendar.Clock
import Criteria.Proofs.Calendar.DayNumber
import Criteria.Proofs.Text.Blank
import Criteria.Proofs.Text.Digits

namespace Criteria

open Text

namespace Calendar

/-! ### Numbers -/

theorem takeNumber_fixedDigits (places : Nat) {n : Nat} (hn : n < 10 ^ (places + 1))
    (rest : List Char) :
    takeNumber (places + 1) (fixedDigits (places + 1) n ++ rest) = some (n, rest) := by
  have hdigits : ∀ c ∈ fixedDigits (places + 1) n, isDigit c = true := fun c hc =>
    isDigit_of_mem_fixedDigits hc
  have hlength := length_fixedDigits (places + 1) n
  have htake := takeDigits_append hdigits rest
  rw [hlength] at htake
  have hvalue : digitsValue (fixedDigits (places + 1) n) = n := by
    rw [digitsValue_fixedDigits, Nat.mod_eq_of_lt hn]
  cases hfront : fixedDigits (places + 1) n with
  | nil => simp [hfront] at hlength
  | cons d ds =>
    have hd : isBlank d = false := isBlank_of_isDigit (hdigits d (by simp [hfront]))
    rw [hfront] at htake hvalue
    rw [List.cons_append] at htake ⊢
    simp only [takeNumber, dropBlanks_cons hd, htake, hvalue, List.isEmpty_cons, Bool.false_eq_true,
      if_false]

theorem takeLongNumber_append {ds : List Char} (hne : ds ≠ []) (hds : ∀ c ∈ ds, isDigit c = true)
    {rest : List Char} (hrest : ∀ c ∈ rest.head?, isDigit c = false) :
    takeLongNumber (ds ++ rest) = some (digitsValue ds, rest) := by
  obtain ⟨htake, hdrop⟩ := span_digits hds hrest
  have hempty : ds.isEmpty = false := by simpa using hne
  simp only [takeLongNumber, htake, hdrop, hempty, Bool.false_eq_true, if_false]

/-- A year without a sign is a number of four digits at most. -/
theorem takeYear_of_isDigit {d : Char} (hd : isDigit d = true) (cs : List Char) :
    takeYear (d :: cs) = (takeNumber 4 (d :: cs)).map fun p => ((p.1 : Int), p.2) := by
  rw [takeYear, dropBlanks_cons (isBlank_of_isDigit hd)]
  split
  · next heq =>
    rw [(List.cons.inj heq).1] at hd
    exact absurd hd (by decide)
  · next heq =>
    rw [(List.cons.inj heq).1] at hd
    exact absurd hd (by decide)
  · rfl

theorem takeYear_yearText (year : Int) (rest : List Char) :
    takeYear (DateTime.yearText year ++ '-' :: rest) = some (year, '-' :: rest) := by
  have hstop : ∀ c ∈ ('-' :: rest).head?, isDigit c = false := by simp [isDigit]
  have hlong := takeLongNumber_append (paddedDigits_ne_nil 4 year.natAbs)
    (fun c hc => isDigit_of_mem_paddedDigits hc) hstop
  rw [digitsValue_paddedDigits] at hlong
  unfold DateTime.yearText
  by_cases hplain : 0 ≤ year ∧ year ≤ 9999
  · have hnumber := takeNumber_fixedDigits 3 (n := year.toNat) (by omega) ('-' :: rest)
    rw [if_pos hplain]
    cases hfront : fixedDigits 4 year.toNat with
    | nil => simp [fixedDigits] at hfront
    | cons d ds =>
      have hmem : d ∈ fixedDigits 4 year.toNat := by simp [hfront]
      have hd : isDigit d = true := isDigit_of_mem_fixedDigits hmem
      rw [hfront, List.cons_append] at hnumber
      rw [List.cons_append, takeYear_of_isDigit hd, hnumber, Option.map_some,
        Int.toNat_of_nonneg hplain.1]
  · rw [if_neg hplain, List.cons_append]
    by_cases hneg : year < 0
    · rw [if_pos hneg, takeYear, dropBlanks_cons (by decide)]
      simp only [hlong, Option.map_some]
      rw [show -(year.natAbs : Int) = year by omega]
    · rw [if_neg hneg, takeYear, dropBlanks_cons (by decide)]
      simp only [hlong, Option.map_some]
      rw [show (year.natAbs : Int) = year by omega]

/-! ### Fractions -/

theorem nanoOf_fixedDigits {places n : Nat} (hplaces : places ≤ 9) (hn : n < 10 ^ places) :
    nanoOf (fixedDigits places n) = n * 10 ^ (9 - places) := by
  have hlength := length_fixedDigits places n
  rw [nanoOf, List.take_of_length_le (by omega), hlength, digitsValue_fixedDigits,
    Nat.mod_eq_of_lt hn]
  rfl

theorem takeFraction_fixedDigits {places n : Nat} (hpositive : 0 < places) (hplaces : places ≤ 9)
    (hn : n < 10 ^ places) {rest : List Char} (hrest : ∀ c ∈ rest.head?, isDigit c = false) :
    takeFraction ('.' :: (fixedDigits places n ++ rest)) = some (n * 10 ^ (9 - places), rest) := by
  have hdigits : ∀ c ∈ fixedDigits places n, isDigit c = true :=
    fun c hc => isDigit_of_mem_fixedDigits hc
  obtain ⟨htake, hdrop⟩ := span_digits hdigits hrest
  have hne : (fixedDigits places n).isEmpty = false := by
    rw [List.isEmpty_eq_false_iff, ← List.length_pos_iff, length_fixedDigits]
    exact hpositive
  simp only [takeFraction, htake, hdrop, hne, Bool.false_eq_true, if_false,
    nanoOf_fixedDigits hplaces hn]

/-- What may stand behind a fraction, or in its place: neither a digit nor a point. -/
def EndsFraction (rest : List Char) : Prop := ∀ c ∈ rest.head?, isDigit c = false ∧ c ≠ '.'

theorem endsFraction_nil : EndsFraction [] := by
  intro c hc
  exact nomatch hc

theorem takeFraction_of_endsFraction {rest : List Char} (hrest : EndsFraction rest) :
    takeFraction rest = some (0, rest) := by
  unfold takeFraction
  split
  · exact absurd rfl (hrest '.' rfl).2
  · rfl

/-- The groups of digits left out of a fraction are zeros. -/
theorem takeFraction_fractionText {n : Nat} (hn : n < 1000000000) {rest : List Char}
    (hrest : EndsFraction rest) :
    takeFraction (DateTime.fractionText n ++ rest) = some (n, rest) := by
  have hdigits : ∀ c ∈ rest.head?, isDigit c = false := fun c hc => (hrest c hc).1
  unfold DateTime.fractionText
  by_cases hzero : n = 0
  · rw [if_pos hzero, hzero]
    exact takeFraction_of_endsFraction hrest
  · rw [if_neg hzero]
    by_cases hmillis : n % 1000000 = 0
    · rw [if_pos hmillis, List.cons_append,
        takeFraction_fixedDigits (by decide) (by decide) (by omega) hdigits]
      exact congrArg some (by simp; omega)
    · rw [if_neg hmillis]
      by_cases hmicros : n % 1000 = 0
      · rw [if_pos hmicros, List.cons_append,
          takeFraction_fixedDigits (by decide) (by decide) (by omega) hdigits]
        exact congrArg some (by simp; omega)
      · rw [if_neg hmicros, List.cons_append,
          takeFraction_fixedDigits (by decide) (by decide) (by omega) hdigits]
        exact congrArg some (by simp)

/-! ### Dates and clocks -/

theorem takeItems_append (xs ys : List Item) (f : Fields) (cs : List Char) :
    takeItems (xs ++ ys) f cs = (takeItems xs f cs).bind fun p => takeItems ys p.1 p.2 := by
  induction xs generalizing f cs with
  | nil => rfl
  | cons i xs ih =>
    simp only [List.cons_append, takeItems]
    cases i.take f cs with
    | none => rfl
    | some p => exact ih p.1 p.2

theorem takeItems_dateText (d : Date) (f : Fields) (rest : List Char) :
    takeItems dateItems f (DateTime.dateText d ++ rest) =
      some ({ f with year := d.year, month := d.month, day := d.day }, rest) := by
  obtain ⟨_, ⟨_, hmonth⟩, ⟨_, hday⟩⟩ := d.valid
  have hlast := daysIn_le d.year d.month
  have hday' : d.day < 10 ^ 2 := by omega
  have hyear := takeYear_yearText d.year
    (fixedDigits 2 d.month ++ '-' :: (fixedDigits 2 d.day ++ rest))
  have hmonth' := takeNumber_fixedDigits 1 (n := d.month) (by omega)
    ('-' :: (fixedDigits 2 d.day ++ rest))
  have hday'' := takeNumber_fixedDigits 1 hday' rest
  simp only [dateItems, DateTime.dateText, List.append_assoc, List.cons_append, takeItems,
    Item.take, hyear, hmonth', hday'', takeMark, if_true, Option.map_some, Option.bind_some]

theorem takeItems_clockText (t : TimeOfDay) (f : Fields) {rest : List Char}
    (hrest : EndsFraction rest) :
    takeItems secondItems f (DateTime.clockText t ++
        (DateTime.fractionText (DateTime.fraction t) ++ rest)) =
      some ({ f with
        hour := t.hour, minute := t.minute, second := t.second + t.nano / 1000000000,
        nano := DateTime.fraction t }, rest) := by
  obtain ⟨hhour, hminute, hsecond, hnano⟩ := t.valid
  have hshown : t.second + t.nano / 1000000000 < 10 ^ 2 := by omega
  have hfraction : DateTime.fraction t < 1000000000 := Nat.mod_lt _ (by decide)
  have htail := takeFraction_fractionText hfraction hrest
  generalize DateTime.fractionText (DateTime.fraction t) ++ rest = tail at htail
  have hhour' := takeNumber_fixedDigits 1 (n := t.hour) (by omega)
    (':' :: (fixedDigits 2 t.minute ++
      ':' :: (fixedDigits 2 (t.second + t.nano / 1000000000) ++ tail)))
  have hminute' := takeNumber_fixedDigits 1 (n := t.minute) (by omega)
    (':' :: (fixedDigits 2 (t.second + t.nano / 1000000000) ++ tail))
  have hsecond' := takeNumber_fixedDigits 1 hshown tail
  simp only [secondItems, minuteItems, DateTime.clockText, List.append_assoc, List.cons_append,
    List.nil_append, takeItems, Item.take, hhour', hminute', hsecond', htail, takeMark, if_true,
    Option.map_some, Option.bind_some]

/-! ### Date-times -/

/-- The fields that the text of a date-time writes. -/
def fieldsOf (t : DateTime) : Fields where
  year := t.date.year
  month := t.date.month
  day := t.date.day
  hour := t.time.hour
  minute := t.time.minute
  second := t.time.second + t.time.nano / 1000000000
  nano := DateTime.fraction t.time

/-- The fields are those of the time shown, and a time that is shown is what its fields make. -/
theorem time?_fieldsOf (t : DateTime) : (fieldsOf t).time? = some t.time.shown := by
  obtain ⟨_, _, hsecond, hnano⟩ := t.time.shown.valid
  have hnanos := t.time.nanos_shown
  have hshown := t.time.isShown_shown
  unfold Fields.time?
  split_ifs with hsixty
  · -- Second 60 is shown of a leap second alone, and that is the rest of second 59.
    have hnumber : t.time.second + t.time.nano / 1000000000 = 60 := hsixty
    have hlast : t.time.shown.second = 59 := by omega
    have hrest : t.time.shown.nano = DateTime.fraction t.time + 1000000000 := by
      unfold DateTime.fraction
      omega
    exact TimeOfDay.ofParts?_eq_some_iff.mpr
      ⟨⟨t.time.hour_shown, t.time.minute_shown, hlast, hrest⟩, hshown⟩
  · have hnumber : t.time.second + t.time.nano / 1000000000 ≠ 60 := hsixty
    have hwhole : t.time.shown.nano < 1000000000 := by
      rcases hshown with h | h
      · exact h
      · omega
    have hsame : t.time.shown.second = t.time.second + t.time.nano / 1000000000 := by omega
    have hrest : t.time.shown.nano = DateTime.fraction t.time := by
      unfold DateTime.fraction
      omega
    exact TimeOfDay.ofParts?_eq_some_iff.mpr
      ⟨⟨t.time.hour_shown, t.time.minute_shown, hsame, hrest⟩, hshown⟩

theorem dateTime?_fieldsOf (t : DateTime) : (fieldsOf t).dateTime? = some t.shown := by
  have hdate : (fieldsOf t).date? = some t.date := Date.ofParts?_eq_some_iff.mpr ⟨rfl, rfl, rfl⟩
  simp only [Fields.dateTime?, hdate, time?_fieldsOf, Option.bind_eq_bind, Option.bind_some,
    Option.pure_def, DateTime.shown]

/-! ### Layouts -/

/-- The fields of a text that a date begins, if items for what follows the date use it up. -/
def readTail (items : List Item) (d : Date) (tail : List Char) : Option Fields :=
  match takeItems items { year := d.year, month := d.month, day := d.day } tail with
  | some (f, []) => some f
  | _ => none

theorem readWith_dateText (items : List Item) (d : Date) (tail : List Char) :
    readWith (dateItems ++ items) (DateTime.dateText d ++ tail) = readTail items d tail := by
  have htake : takeItems (dateItems ++ items) {} (DateTime.dateText d ++ tail) =
      takeItems items { year := d.year, month := d.month, day := d.day } tail := by
    rw [takeItems_append, takeItems_dateText, Option.bind_some]
  unfold readWith
  rw [htake]
  rfl

/-- A blank is passed over in front of digits, and no digit itself. -/
theorem readTail_blanks (d : Date) {tail : List Char} (htail : ∀ c ∈ tail.head?, isDigit c = true)
    (items : List Item) : readTail (.blanks :: items) d (' ' :: tail) = readTail items d tail := by
  have hdrop : dropBlanks (' ' :: tail) = tail := by
    cases tail with
    | nil => rfl
    | cons c tail => exact dropBlanks_cons (isBlank_of_isDigit (htail c rfl)) tail
  simp only [readTail, takeItems, Item.take, hdrop, Option.bind_some]

/-- A mark is no blank, and no digit either. -/
theorem readTail_blanks_of_mark (d : Date) (tail : List Char) (items : List Item) :
    readTail (.blanks :: .hour :: items) d ('T' :: tail) = none := by
  have hdrop : dropBlanks ('T' :: tail) = 'T' :: tail := dropBlanks_cons (by decide) tail
  have hhour : takeNumber 2 ('T' :: tail) = none := by
    rw [takeNumber, hdrop]
    rfl
  simp only [readTail, takeItems, Item.take, hdrop, hhour, Option.map_none, Option.bind_none,
    Option.bind_some]

/-- What the time behind a date and a separator is read as: with seconds if it has any. -/
def readTime (d : Date) (tail : List Char) : Option DateTime :=
  [secondItems, minuteItems].findSome? fun items => (readTail items d tail).bind Fields.dateTime?

/-- **The separator settles the layouts**, up to whether there are seconds. -/
theorem findSome?_layouts {separator : Char} (h : separator = ' ' ∨ separator = 'T') (d : Date)
    {tail : List Char} (htail : ∀ c ∈ tail.head?, isDigit c = true) :
    layouts.findSome? (fun l => (readWith l (DateTime.dateText d ++ separator :: tail)).bind
      Fields.dateTime?) = readTime d tail := by
  simp only [layouts, readTime, List.findSome?_cons, List.findSome?_nil, readWith_dateText]
  rcases h with rfl | rfl
  · have hmark : ∀ items, readTail (.mark 'T' :: items) d (' ' :: tail) = none := fun items => rfl
    simp only [readTail_blanks d htail, hmark, Option.bind_none]
  · have hsecond : readTail (.blanks :: secondItems) d ('T' :: tail) = none :=
      readTail_blanks_of_mark d tail _
    have hminute : readTail (.blanks :: minuteItems) d ('T' :: tail) = none :=
      readTail_blanks_of_mark d tail _
    have hmark : ∀ items, readTail (.mark 'T' :: items) d ('T' :: tail) = readTail items d tail :=
      fun items => rfl
    simp only [hsecond, hminute, hmark, Option.bind_none]

/-! ### Texts -/

/-- The text of a time begins with a digit, that of its hour. -/
theorem isDigit_of_mem_head?_clockText (t : TimeOfDay) (rest : List Char) :
    ∀ c ∈ (DateTime.clockText t ++ rest).head?, isDigit c = true := by
  intro c hc
  have hmem : c ∈ fixedDigits 2 t.hour := by
    simp only [DateTime.clockText, fixedDigits, List.nil_append, List.cons_append,
      List.head?_cons, Option.mem_some_iff] at hc
    simp [fixedDigits, ← hc]
  exact isDigit_of_mem_fixedDigits hmem

/-- The text of a time ends with digits: those of the seconds or of their fraction. -/
theorem clockText_ends (t : TimeOfDay) (n : Nat) :
    ∃ front places m, DateTime.clockText t ++ DateTime.fractionText n =
      front ++ fixedDigits (places + 1) m := by
  unfold DateTime.fractionText
  by_cases hzero : n = 0
  · refine ⟨fixedDigits 2 t.hour ++ ':' :: (fixedDigits 2 t.minute ++ [':']), 1,
      t.second + t.nano / 1000000000, ?_⟩
    rw [if_pos hzero]
    simp [DateTime.clockText]
  · -- What stands in front of the fraction is the same for each of its widths.
    have hfraction : ∃ places m, (if n = 0 then [] else if n % 1000000 = 0 then
        '.' :: fixedDigits 3 (n / 1000000) else if n % 1000 = 0 then
        '.' :: fixedDigits 6 (n / 1000) else '.' :: fixedDigits 9 n) =
          '.' :: fixedDigits (places + 1) m := by
      rw [if_neg hzero]
      split_ifs
      · exact ⟨2, _, rfl⟩
      · exact ⟨5, _, rfl⟩
      · exact ⟨8, _, rfl⟩
    obtain ⟨places, m, hm⟩ := hfraction
    refine ⟨DateTime.clockText t ++ ['.'], places, m, ?_⟩
    rw [hm]
    simp

theorem isBlank_of_mem_getLast?_fixedDigits {front : List Char} {places n : Nat} :
    ∀ c ∈ (front ++ fixedDigits (places + 1) n).getLast?, isBlank c = false := by
  intro c hc
  have hne : fixedDigits (places + 1) n ≠ [] := by simp [fixedDigits]
  rw [List.getLast?_append_of_ne_nil _ hne] at hc
  exact isBlank_of_isDigit (isDigit_of_mem_fixedDigits (List.mem_of_mem_getLast? hc))

/-- A text that begins with a date begins with no blank. -/
theorem trim_dateText_append (d : Date) {tail : List Char}
    (htail : ∀ c ∈ (DateTime.dateText d ++ tail).getLast?, isBlank c = false) :
    trim (DateTime.dateText d ++ tail) = DateTime.dateText d ++ tail := by
  refine trim_eq_self ?_ htail
  intro c hc
  have hyear : c ∈ (DateTime.yearText d.year).head? := by
    have hne : DateTime.yearText d.year ≠ [] := by
      unfold DateTime.yearText
      split_ifs <;> simp [fixedDigits]
    simp only [DateTime.dateText, List.append_assoc, List.head?_append_of_ne_nil _ hne] at hc
    exact hc
  unfold DateTime.yearText at hyear
  split_ifs at hyear
  · exact isBlank_of_isDigit (isDigit_of_mem_fixedDigits (List.mem_of_mem_head? hyear))
  · rw [← Option.mem_some_iff.mp hyear]
    decide
  · rw [← Option.mem_some_iff.mp hyear]
    decide

theorem trim_textWith (separator : Char) (t : DateTime) :
    trim (t.textWith separator) = t.textWith separator := by
  obtain ⟨front, places, n, hends⟩ := clockText_ends t.time (DateTime.fraction t.time)
  apply trim_dateText_append
  rw [hends, ← List.cons_append, ← List.append_assoc]
  exact isBlank_of_mem_getLast?_fixedDigits

theorem readTime_clockText (t : DateTime) :
    readTime t.date
        (DateTime.clockText t.time ++ DateTime.fractionText (DateTime.fraction t.time)) =
      some t.shown := by
  have hclock := takeItems_clockText t.time
    { year := t.date.year, month := t.date.month, day := t.date.day } endsFraction_nil
  rw [List.append_nil] at hclock
  have hfields : readTail secondItems t.date
      (DateTime.clockText t.time ++ DateTime.fractionText (DateTime.fraction t.time)) =
      some (fieldsOf t) := by
    rw [readTail, hclock]
    rfl
  simp only [readTime, List.findSome?_cons, hfields, Option.bind_some, dateTime?_fieldsOf]

/-- What a layout reads is read. -/
theorem readDateTime_of_readTime {separator : Char} (h : separator = ' ' ∨ separator = 'T')
    {d : Date} {tail : List Char} (htail : ∀ c ∈ tail.head?, isDigit c = true)
    (htrim : trim (DateTime.dateText d ++ separator :: tail) =
      DateTime.dateText d ++ separator :: tail)
    {t : DateTime} (hread : readTime d tail = some t) :
    readDateTime (DateTime.dateText d ++ separator :: tail) = some t := by
  simp only [readDateTime, htrim, findSome?_layouts h d htail, hread]
  rfl

/-- **A date-time is read back from its text as it is shown**, with a blank or a `T` between date
    and time. -/
theorem readDateTime_textWith (t : DateTime) {separator : Char}
    (h : separator = ' ' ∨ separator = 'T') :
    readDateTime (t.textWith separator) = some t.shown :=
  readDateTime_of_readTime h (isDigit_of_mem_head?_clockText t.time _) (trim_textWith separator t)
    (readTime_clockText t)

end Calendar

end Criteria
