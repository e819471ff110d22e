/-
  Criteria/Proofs/Calendar/Spelling.lean
  ======================================
  **Every spelling of a date-time is read as that date-time**, as a clock shows it.
  A date-time can be written in full, with or without a zone behind it, to the
  minute if there is nothing behind the minute, and as a bare date if it is
  midnight (`Spelling`).
  The readers are tried in order, and each but the last can only stop at what a
  later one is there for: the layouts at the zone, which is text left over, and at
  the end of a bare date, where they look for an hour; the internet form at the
  end of a bare date as well.  So no spelling is taken for another.
-/
import Criteria.Proofs.Calendar.Written
import Criteria.Value.Coercion

namespace Criteria

open Text

namespace DateTime

/-- Hours and minutes. -/
def minuteText (t : TimeOfDay) : List Char :=
  fixedDigits 2 t.hour ++ ':' :: fixedDigits 2 t.minute

theorem clockText_eq (t : TimeOfDay) :
    clockText t = minuteText t ++ ':' :: fixedDigits 2 (t.second + t.nano / 1000000000) := by
  simp [clockText, minuteText]

end DateTime

namespace Calendar

/-! ### Spellings -/

/-- How the internet form writes a zone: `Z`, or a sign, hours up to 23 and minutes up to 59. -/
inductive ZoneText : List Char → Prop where
  | universal : ZoneText ['Z']
  | offset {sign : Char} {hours minutes : Nat} (hsign : sign = '+' ∨ sign = '-')
      (hhours : hours ≤ 23) (hminutes : minutes ≤ 59) :
      ZoneText (sign :: (fixedDigits 2 hours ++ ':' :: fixedDigits 2 minutes))

/-- The texts that write a date-time. -/
inductive Spelling (t : DateTime) : List Char → Prop where
  /-- The literal form. -/
  | literal : Spelling t (Value.literal (.time t)).toList
  /-- The literal form with a `T` for the blank. -/
  | marked : Spelling t (t.textWith 'T')
  /-- The internet form, in which years have four digits.  The zone is no part of the reading. -/
  | internet {zone : List Char} (hyear : 0 ≤ t.date.year ∧ t.date.year ≤ 9999)
      (hzone : ZoneText zone) : Spelling t (t.textWith 'T' ++ zone)
  /-- Without the seconds, if there are none. -/
  | minute {separator : Char} (hseparator : separator = ' ' ∨ separator = 'T')
      (hsecond : t.time.second = 0) (hnano : t.time.nano = 0) :
      Spelling t (DateTime.dateText t.date ++ separator :: DateTime.minuteText t.time)
  /-- The date alone, if the time is midnight. -/
  | date (hmidnight : t.time = .midnight) : Spelling t (DateTime.dateText t.date)

/-! ### Times to the minute -/

theorem takeItems_minuteText (t : TimeOfDay) (f : Fields) (rest : List Char) :
    takeItems minuteItems f (DateTime.minuteText t ++ rest) =
      some ({ f with hour := t.hour, minute := t.minute }, rest) := by
  obtain ⟨hhour, hminute, _⟩ := t.valid
  have hhour' := takeNumber_fixedDigits 1 (n := t.hour) (by omega)
    (':' :: (fixedDigits 2 t.minute ++ rest))
  have hminute' := takeNumber_fixedDigits 1 (n := t.minute) (by omega) rest
  simp only [minuteItems, DateTime.minuteText, List.append_assoc, List.cons_append, takeItems,
    Item.take, hhour', hminute', takeMark, if_true, Option.map_some, Option.bind_some]

theorem isDigit_of_mem_head?_minuteText (t : TimeOfDay) (rest : List Char) :
    ∀ c ∈ (DateTime.minuteText t ++ rest).head?, isDigit c = true := by
  have hhead : ∀ rest', (DateTime.minuteText t ++ rest).head? =
      (DateTime.clockText t ++ rest').head? := by
    intro rest'
    simp [DateTime.minuteText, DateTime.clockText, fixedDigits]
  rw [hhead []]
  exact isDigit_of_mem_head?_clockText t []

/-- A layout with seconds stops where the minutes end, and one without them uses the text up. -/
theorem readTime_minuteText {t : DateTime} (hsecond : t.time.second = 0) (hnano : t.time.nano = 0) :
    readTime t.date (DateTime.minuteText t.time) = some t.shown := by
  have hminute := fun f => takeItems_minuteText t.time f []
  simp only [List.append_nil] at hminute
  have hstops : readTail secondItems t.date (DateTime.minuteText t.time) = none := by
    simp only [readTail, secondItems, takeItems_append, hminute, Option.bind_some, takeItems,
      Item.take, takeMark, Option.map_none, Option.bind_none]
  have hfields : readTail minuteItems t.date (DateTime.minuteText t.time) = some (fieldsOf t) := by
    have hshown : t.time.second + t.time.nano / 1000000000 = 0 := by omega
    have hfraction : DateTime.fraction t.time = 0 := by rw [DateTime.fraction, hnano]
    simp only [readTail, hminute, fieldsOf, hshown, hfraction]
  simp only [readTime, List.findSome?_cons, hstops, hfields, Option.bind_none, Option.bind_some,
    dateTime?_fieldsOf]

theorem readDateTime_minuteText {t : DateTime} (hsecond : t.time.second = 0)
    (hnano : t.time.nano = 0) {separator : Char} (h : separator = ' ' ∨ separator = 'T') :
    readDateTime (DateTime.dateText t.date ++ separator :: DateTime.minuteText t.time) =
      some t.shown := by
  refine readDateTime_of_readTime h ?_ ?_ (readTime_minuteText hsecond hnano)
  · have hhead := isDigit_of_mem_head?_minuteText t.time []
    rwa [List.append_nil] at hhead
  · apply trim_dateText_append
    have hends : DateTime.dateText t.date ++ separator :: DateTime.minuteText t.time =
        (DateTime.dateText t.date ++ separator :: (fixedDigits 2 t.time.hour ++ [':'])) ++
          fixedDigits 2 t.time.minute := by
      simp [DateTime.minuteText]
    rw [hends]
    exact isBlank_of_mem_getLast?_fixedDigits

/-! ### The internet form -/

theorem takeFixed_fixedDigits (places : Nat) {n : Nat} (hn : n < 10 ^ places) (rest : List Char) :
    takeFixed places (fixedDigits places n ++ rest) = some (n, rest) := by
  have hdigits : ∀ c ∈ fixedDigits places n, isDigit c = true :=
    fun c hc => isDigit_of_mem_fixedDigits hc
  have htake := takeDigits_append hdigits rest
  rw [length_fixedDigits] at htake
  simp only [takeFixed, htake, length_fixedDigits, if_true, digitsValue_fixedDigits,
    Nat.mod_eq_of_lt hn]

theorem isZone_of_zoneText {zone : List Char} (h : ZoneText zone) : isZone zone = true := by
  cases h with
  | universal => rfl
  | @offset sign hours minutes hsign hhours hminutes =>
    have hours' := takeFixed_fixedDigits 2 (n := hours) (by omega)
      (':' :: fixedDigits 2 minutes)
    have minutes' := takeFixed_fixedDigits 2 (n := minutes) (by omega) []
    rw [List.append_nil] at minutes'
    have hletter : ¬ (sign = 'Z' ∨ sign = 'z') := by rcases hsign with rfl | rfl <;> decide
    have hmark : sign = '+' ∨ sign = '-' ∨ sign = '\u2212' := by tauto
    simp only [isZone, if_neg hletter, if_pos hmark, hours', minutes']
    simp only [Bool.and_eq_true, decide_eq_true_eq]
    omega

theorem endsFraction_of_zoneText {zone : List Char} (h : ZoneText zone) : EndsFraction zone := by
  intro c hc
  cases h with
  | universal =>
    rw [← Option.mem_some_iff.mp hc]
    decide
  | offset hsign _ _ =>
    rw [List.head?_cons, Option.mem_some_iff] at hc
    rw [← hc]
    rcases hsign with rfl | rfl <;> decide

theorem ne_nil_of_zoneText {zone : List Char} (h : ZoneText zone) : zone ≠ [] := by
  cases h <;> simp

/-- A zone is left over by every layout. -/
theorem readTime_zone (t : DateTime) {zone : List Char} (h : ZoneText zone) :
    readTime t.date (DateTime.clockText t.time ++
      (DateTime.fractionText (DateTime.fraction t.time) ++ zone)) = none := by
  have hsecond : readTail secondItems t.date (DateTime.clockText t.time ++
      (DateTime.fractionText (DateTime.fraction t.time) ++ zone)) = none := by
    obtain ⟨c, cs, hzone⟩ := List.exists_cons_of_ne_nil (ne_nil_of_zoneText h)
    rw [readTail, takeItems_clockText t.time _ (endsFraction_of_zoneText h), hzone]
  have hminute : readTail minuteItems t.date (DateTime.clockText t.time ++
      (DateTime.fractionText (DateTime.fraction t.time) ++ zone)) = none := by
    rw [readTail, DateTime.clockText_eq, List.append_assoc, takeItems_minuteText, List.cons_append]
  simp only [readTime, List.findSome?_cons, List.findSome?_nil, hsecond, hminute, Option.bind_none]

/-- **The internet form is read by fixed widths**, and its zone is passed over. -/
theorem readInternet_zone {t : DateTime} (hyear : 0 ≤ t.date.year ∧ t.date.year ≤ 9999)
    {zone : List Char} (h : ZoneText zone) :
    readInternet (t.textWith 'T' ++ zone) = some t.shown := by
  obtain ⟨_, ⟨_, hmonth⟩, _, hday⟩ := t.date.valid
  obtain ⟨hhour, hminute, hsecond, hnano⟩ := t.time.valid
  have hlast := daysIn_le t.date.year t.date.month
  have hfraction : DateTime.fraction t.time < 1000000000 := Nat.mod_lt _ (by decide)
  have htail := takeFraction_fractionText hfraction (endsFraction_of_zoneText h)
  have hfields := dateTime?_fieldsOf t
  rw [fieldsOf, ← Int.toNat_of_nonneg hyear.1] at hfields
  have hyear' := takeFixed_fixedDigits 4 (n := t.date.year.toNat) (by omega)
  have hmonth' := takeFixed_fixedDigits 2 (n := t.date.month) (by omega)
  have hday' := takeFixed_fixedDigits 2 (n := t.date.day) (by omega)
  have hhour' := takeFixed_fixedDigits 2 (n := t.time.hour) (by omega)
  have hminute' := takeFixed_fixedDigits 2 (n := t.time.minute) (by omega)
  have hsecond' := takeFixed_fixedDigits 2 (n := t.time.second + t.time.nano / 1000000000)
    (by omega)
  simp only [readInternet, DateTime.textWith, DateTime.dateText, DateTime.yearText, if_pos hyear,
    DateTime.clockText, List.append_assoc, List.cons_append, hyear', hmonth', hday', hhour',
    hminute', hsecond', takeMark, if_true, htail, isZone_of_zoneText h, Option.orElse_eq_orElse,
    Option.orElse_some, Option.bind_eq_bind, Option.bind_some]
  exact hfields

theorem readDateTime_zone {t : DateTime} (hyear : 0 ≤ t.date.year ∧ t.date.year ≤ 9999)
    {zone : List Char} (h : ZoneText zone) :
    readDateTime (t.textWith 'T' ++ zone) = some t.shown := by
  have htext : t.textWith 'T' ++ zone =
      DateTime.dateText t.date ++ 'T' :: (DateTime.clockText t.time ++
        (DateTime.fractionText (DateTime.fraction t.time) ++ zone)) := by
    simp [DateTime.textWith]
  have htrim : trim (t.textWith 'T' ++ zone) = t.textWith 'T' ++ zone := by
    rw [DateTime.textWith, List.append_assoc]
    apply trim_dateText_append
    rw [← List.append_assoc]
    cases h with
    | universal =>
      intro c hc
      rw [List.getLast?_concat, Option.mem_some_iff] at hc
      rw [← hc]
      decide
    | @offset sign hours minutes _ _ _ =>
      have hends : sign :: (fixedDigits 2 hours ++ ':' :: fixedDigits 2 minutes) =
          (sign :: (fixedDigits 2 hours ++ [':'])) ++ fixedDigits 2 minutes := by simp
      rw [hends, ← List.append_assoc]
      exact isBlank_of_mem_getLast?_fixedDigits
  have hlayouts := findSome?_layouts (.inr rfl) t.date (isDigit_of_mem_head?_clockText t.time
    (DateTime.fractionText (DateTime.fraction t.time) ++ zone))
  rw [readTime_zone t h, ← htext] at hlayouts
  simp only [readDateTime, htrim, hlayouts, readInternet_zone hyear h]
  rfl

/-! ### Bare dates -/

theorem readDate_dateText (d : Date) : readDate (DateTime.dateText d) = some d := by
  have hitems := takeItems_dateText d {} []
  rw [List.append_nil] at hitems
  have hdate : Fields.date? { year := d.year, month := d.month, day := d.day } = some d :=
    Date.ofParts?_eq_some_iff.mpr ⟨rfl, rfl, rfl⟩
  simp only [readDate, readWith, hitems, Option.bind_some]
  exact hdate

/-- Every layout looks for an hour behind the date, or for a mark in front of it. -/
theorem findSome?_layouts_dateText (d : Date) :
    layouts.findSome? (fun l => (readWith l (DateTime.dateText d)).bind Fields.dateTime?) =
      none := by
  have hread := fun items => readWith_dateText items d []
  simp only [List.append_nil] at hread
  have hblanks : ∀ items, readTail (.blanks :: .hour :: items) d [] = none := fun items => rfl
  have hmark : ∀ items, readTail (.mark 'T' :: items) d [] = none := fun items => rfl
  simp only [layouts, List.findSome?_cons, List.findSome?_nil, hread, secondItems, minuteItems,
    List.cons_append, hblanks, hmark, Option.bind_none]

/-- The internet form looks for a time behind the date; a year with a sign it does not read. -/
theorem readInternet_dateText (d : Date) : readInternet (DateTime.dateText d) = none := by
  by_cases hyear : 0 ≤ d.year ∧ d.year ≤ 9999
  · obtain ⟨_, ⟨_, hmonth⟩, _, hday⟩ := d.valid
    have hlast := daysIn_le d.year d.month
    have hyear' := takeFixed_fixedDigits 4 (n := d.year.toNat) (by omega)
    have hmonth' := takeFixed_fixedDigits 2 (n := d.month) (by omega)
    have hday' := takeFixed_fixedDigits 2 (n := d.day) (by omega) []
    rw [List.append_nil] at hday'
    simp only [readInternet, DateTime.dateText, DateTime.yearText, if_pos hyear, hyear', hmonth',
      hday', takeMark, if_true, Option.bind_eq_bind, Option.bind_some]
    rfl
  · have hsign : ∀ sign rest, sign = '-' ∨ sign = '+' → takeFixed 4 (sign :: rest) = none := by
      rintro sign rest (rfl | rfl) <;> rfl
    have htake : takeFixed 4 (DateTime.dateText d) = none := by
      rw [DateTime.dateText, DateTime.yearText, if_neg hyear, List.cons_append]
      apply hsign
      split <;> simp
    rw [readInternet, htake]
    rfl

theorem readDateTime_dateText (d : Date) :
    readDateTime (DateTime.dateText d) = some ⟨d, .midnight⟩ := by
  have hends : DateTime.dateText d ++ [] =
      (DateTime.yearText d.year ++ '-' :: (fixedDigits 2 d.month ++ ['-'])) ++
        fixedDigits 2 d.day := by
    simp [DateTime.dateText]
  have htrim : trim (DateTime.dateText d ++ []) = DateTime.dateText d ++ [] := by
    apply trim_dateText_append
    rw [hends]
    exact isBlank_of_mem_getLast?_fixedDigits
  rw [List.append_nil] at htrim
  simp only [readDateTime, htrim, findSome?_layouts_dateText, readInternet_dateText,
    readDate_dateText]
  rfl

/-! ### Every spelling -/

theorem readDateTime_spelling {t : DateTime} {cs : List Char} (h : Spelling t cs) :
    readDateTime cs = some t.shown := by
  cases h with
  | literal =>
    rw [Value.literal, String.toList_ofList]
    exact readDateTime_textWith t (.inl rfl)
  | marked => exact readDateTime_textWith t (.inr rfl)
  | internet hyear hzone => exact readDateTime_zone hyear hzone
  | minute hseparator hsecond hnano => exact readDateTime_minuteText hsecond hnano hseparator
  | date hmidnight =>
    have hshown : t.shown = ⟨t.date, .midnight⟩ := by rw [DateTime.shown, hmidnight]; rfl
    rw [readDateTime_dateText, hshown]

theorem readDateTime_surrounded {before after : List Char}
    (hbefore : ∀ c ∈ before, isBlank c = true) (hafter : ∀ c ∈ after, isBlank c = true)
    (cs : List Char) : readDateTime (before ++ (cs ++ after)) = readDateTime cs := by
  simp only [readDateTime, trim_surrounded hbefore hafter]

end Calendar

/-- **Every spelling of a date-time is read as that date-time**, whatever white space stands around
    it: the literal form for every year and for the leap seconds after second 59, the internet form
    in any zone, the time to the minute, and the bare date of a midnight.  Of a leap second that no
    clock shows, the time is read that its text shows. -/
theorem ValueType.coerce_spelling {t : DateTime} {cs before after : List Char}
    (h : Calendar.Spelling t cs) (hbefore : ∀ c ∈ before, isBlank c = true)
    (hafter : ∀ c ∈ after, isBlank c = true) :
    ValueType.time.coerce (.text (String.ofList (before ++ (cs ++ after)))) = .ok (.time t.shown) ∧
      (t.shown = t ↔ t.time.IsShown) := by
  have hread : Calendar.readDateTime (before ++ (cs ++ after)) = some t.shown := by
    rw [Calendar.readDateTime_surrounded hbefore hafter, Calendar.readDateTime_spelling h]
  refine ⟨?_, t.shown_eq_self_iff⟩
  simp only [coerce, native, String.toList_ofList, hread, Except.mapError]

/-- A leap second of the last day of February in the year 0, with a fraction, far west of universal
    time. -/
theorem ValueType.coerce_spelling_leap :
    ValueType.time.coerce (.text "\t0000-02-29T23:59:60.000001-23:59 \n") =
      .ok (.time ⟨⟨0, 2, 29, by decide⟩, ⟨23, 59, 59, 1000001000, by decide⟩⟩) := by
  have hzone : Calendar.ZoneText ('-' :: (fixedDigits 2 23 ++ ':' :: fixedDigits 2 59)) :=
    .offset (.inr rfl) (by decide) (by decide)
  have hspelling : Calendar.Spelling ⟨⟨0, 2, 29, by decide⟩, ⟨23, 59, 59, 1000001000, by decide⟩⟩
      "0000-02-29T23:59:60.000001-23:59".toList :=
    .internet (by decide) hzone
  have hbefore : ∀ c ∈ ['\t'], isBlank c = true := List.all_eq_true.mp rfl
  have hafter : ∀ c ∈ [' ', '\n'], isBlank c = true := List.all_eq_true.mp rfl
  obtain ⟨hcoerce, hshown⟩ := coerce_spelling hspelling hbefore hafter
  rw [hshown.mpr (by decide)] at hcoerce
  exact hcoerce

/-- A leap second after second 4 has the text of a fraction of second 5, and is read as that. -/
theorem ValueType.coerce_literal_ne :
    Value.literal (.time ⟨⟨2016, 12, 31, by decide⟩, ⟨23, 56, 4, 1333333333, by decide⟩⟩) =
        "2016-12-31 23:56:05.333333333" ∧
      ValueType.time.coerce (.text "2016-12-31 23:56:05.333333333") =
        .ok (.time ⟨⟨2016, 12, 31, by decide⟩, ⟨23, 56, 5, 333333333, by decide⟩⟩) ∧
      ValueType.time.coerce (.text "2016-12-31 23:56:05.333333333") ≠
        .ok (.time ⟨⟨2016, 12, 31, by decide⟩, ⟨23, 56, 4, 1333333333, by decide⟩⟩) := by
  decide +kernel

end Criteria
