/-
  Criteria/Proofs/Search/TimeRanges.lean
  ======================================
  **The bound of a range of times fits the layout that is named beside it.**  A
  layout has a letter for every digit of a field and marks between the fields;
  `readIn` reads a text in a layout place by place, without knowing where the text
  comes from.  A whole second is written in nineteen places, and a fraction puts ten
  more behind the same text.  So both texts are read by one argument about those
  nineteen places (`places_secondsText`), and neither fits the other layout, which
  has another length.

  The years are those of four digits, as any other has a sign, and a leap second is
  written as second 60, which no clock has that a layout is read as.  All other
  times are given back (`readIn_boundText_eq_some_iff`).
-/
import Criteria.Proofs.Answers
import Criteria.Proofs.Calendar.Written
import Criteria.Proofs.Comparisons

namespace Criteria

open Text

namespace Search

/-! ### Reading in a layout -/

/-- Whether a text has the shape of a layout: a digit in the place of a letter, and in any other
    place the mark that the layout has there. -/
def fits : (layout text : List Char) → Bool
  | [], [] => true
  | p :: ps, c :: cs => (if p.isAlpha then isDigit c else c == p) && fits ps cs
  | _, _ => false

/-- The characters in the places of a letter. -/
def placesOf (letter : Char) (layout text : List Char) : List Char :=
  ((layout.zip text).filter fun p => p.1 == letter).map Prod.snd

/-- The number in the places of a letter. -/
def fieldOf (letter : Char) (layout text : List Char) : Nat :=
  digitsValue (placesOf letter layout text)

/-- The date-time that a text writes in a layout, if it has its shape and writes one. -/
def readIn (layout text : List Char) : Option DateTime :=
  if fits layout text then
    (Date.ofParts? (fieldOf 'y' layout text) (fieldOf 'M' layout text)
      (fieldOf 'd' layout text)).bind fun date =>
    (TimeOfDay.ofParts? (fieldOf 'H' layout text) (fieldOf 'm' layout text)
      (fieldOf 's' layout text) (Calendar.nanoOf (placesOf 'S' layout text))).map fun time =>
    ⟨date, time⟩
  else none

theorem length_eq_of_fits {layout text : List Char} (h : fits layout text = true) :
    text.length = layout.length := by
  induction layout generalizing text with
  | nil =>
    cases text with
    | nil => rfl
    | cons c cs => exact nomatch h
  | cons p ps ih =>
    cases text with
    | nil => exact nomatch h
    | cons c cs =>
      rw [fits, Bool.and_eq_true] at h
      rw [List.length_cons, List.length_cons, ih h.2]

theorem readIn_of_length_ne {layout text : List Char} (h : text.length ≠ layout.length) :
    readIn layout text = none := by
  rw [readIn, if_neg fun hfits => h (length_eq_of_fits hfits)]

section

variable {front text : List Char} (hlength : front.length = text.length) (back rest : List Char)

include hlength

theorem fits_append :
    fits (front ++ back) (text ++ rest) = (fits front text && fits back rest) := by
  induction front generalizing text with
  | nil =>
    rw [List.eq_nil_of_length_eq_zero hlength.symm]
    rfl
  | cons p ps ih =>
    obtain ⟨c, cs, rfl⟩ := List.exists_cons_of_length_eq_add_one hlength.symm
    simp only [List.cons_append, fits, Bool.and_assoc]
    rw [ih (Nat.succ.inj hlength)]

theorem placesOf_append (letter : Char) :
    placesOf letter (front ++ back) (text ++ rest) =
      placesOf letter front text ++ placesOf letter back rest := by
  rw [placesOf, List.zip_append hlength, List.filter_append, List.map_append, placesOf, placesOf]

end

/-! ### Texts of times -/

/-- Date and time of day to the second. -/
def secondsText (t : DateTime) : List Char :=
  DateTime.dateText t.date ++ ' ' :: DateTime.clockText t.time

theorem text_of_whole {t : DateTime} (h : t.time.nano = 0) : t.text = secondsText t := by
  simp [DateTime.text, DateTime.textWith, DateTime.fraction, h, DateTime.fractionText, secondsText]

theorem textNano_eq (t : DateTime) :
    t.textNano = secondsText t ++ '.' :: fixedDigits 9 (DateTime.fraction t.time) := by
  simp [DateTime.textNano, secondsText]

/-- The fields that a text has in the places of a layout, of a date and of a clock, which shows a
    leap second as second 60. -/
structure Places (layout text : List Char) (t : DateTime) : Prop where
  shape : fits layout text = true
  year : placesOf 'y' layout text = fixedDigits 4 t.date.year.toNat
  month : placesOf 'M' layout text = fixedDigits 2 t.date.month
  day : placesOf 'd' layout text = fixedDigits 2 t.date.day
  hour : placesOf 'H' layout text = fixedDigits 2 t.time.hour
  minute : placesOf 'm' layout text = fixedDigits 2 t.time.minute
  second : placesOf 's' layout text = fixedDigits 2 (t.time.second + t.time.nano / 1000000000)

theorem timeLayout_toList : timeLayout.toList =
    ['y', 'y', 'y', 'y', '-', 'M', 'M', '-', 'd', 'd', ' ',
      'H', 'H', ':', 'm', 'm', ':', 's', 's'] :=
  rfl

theorem fractionLayout_toList :
    fractionLayout.toList = timeLayout.toList ++ '.' :: List.replicate 9 'S' :=
  rfl

theorem placesOf_of_forall_ne {letter : Char} {layout : List Char} (h : ∀ p ∈ layout, p ≠ letter)
    (text : List Char) : placesOf letter layout text = [] := by
  have hnone : (layout.zip text).filter (fun p => p.1 == letter) = [] := by
    rw [List.filter_eq_nil_iff]
    intro p hp
    simpa using h p.1 (List.of_mem_zip hp).1
  rw [placesOf, hnone, List.map_nil]

theorem ne_fraction_of_mem_timeLayout : ∀ p ∈ timeLayout.toList, p ≠ 'S' := by
  rw [timeLayout_toList]
  simp

theorem isDigit_lastDigit (n : Nat) : isDigit (Nat.digitChar (n % 10)) = true :=
  (digitChar_spec (Nat.mod_lt n (by decide))).1

theorem fits_fractionDigits (n : Nat) :
    fits ('.' :: List.replicate 9 'S') ('.' :: fixedDigits 9 n) = true := by
  simp [fits, fixedDigits, isDigit_lastDigit, List.replicate]

section

variable {t : DateTime} (hyear : 0 ≤ t.date.year ∧ t.date.year ≤ 9999)

include hyear

theorem places_secondsText : Places timeLayout.toList (secondsText t) t := by
  have htext : secondsText t = fixedDigits 4 t.date.year.toNat ++ '-' ::
      (fixedDigits 2 t.date.month ++ '-' :: (fixedDigits 2 t.date.day ++ ' ' ::
        (fixedDigits 2 t.time.hour ++ ':' :: (fixedDigits 2 t.time.minute ++ ':' ::
          fixedDigits 2 (t.time.second + t.time.nano / 1000000000))))) := by
    simp only [secondsText, DateTime.dateText, DateTime.yearText, if_pos hyear, DateTime.clockText,
      List.append_assoc, List.cons_append]
  rw [htext, timeLayout_toList]
  constructor
  case shape => simp [fits, fixedDigits, isDigit_lastDigit]
  -- the characters in the places of a letter are picked out by evaluation
  all_goals rfl

/-- Behind the seconds a fraction adds places of its own letter only. -/
theorem places_textNano : Places fractionLayout.toList t.textNano t := by
  have hplaces := places_secondsText hyear
  have hlength := (length_eq_of_fits hplaces.shape).symm
  have hother {letter : Char} (hmark : '.' ≠ letter) (hnine : 'S' ≠ letter) :
      placesOf letter fractionLayout.toList t.textNano =
        placesOf letter timeLayout.toList (secondsText t) := by
    have hnone : ∀ p ∈ '.' :: List.replicate 9 'S', p ≠ letter := by
      intro p hp
      rcases List.mem_cons.mp hp with rfl | hp
      · exact hmark
      · rw [List.eq_of_mem_replicate hp]
        exact hnine
    rw [fractionLayout_toList, textNano_eq, placesOf_append hlength, placesOf_of_forall_ne hnone,
      List.append_nil]
  constructor
  case shape =>
    rw [fractionLayout_toList, textNano_eq, fits_append hlength, hplaces.shape,
      fits_fractionDigits, Bool.and_self]
  case year => rw [hother (by decide) (by decide), hplaces.year]
  case month => rw [hother (by decide) (by decide), hplaces.month]
  case day => rw [hother (by decide) (by decide), hplaces.day]
  case hour => rw [hother (by decide) (by decide), hplaces.hour]
  case minute => rw [hother (by decide) (by decide), hplaces.minute]
  case second => rw [hother (by decide) (by decide), hplaces.second]

theorem fraction_textNano :
    Calendar.nanoOf (placesOf 'S' fractionLayout.toList t.textNano) =
      DateTime.fraction t.time := by
  have hlength := (length_eq_of_fits (places_secondsText hyear).shape).symm
  have hdigits : placesOf 'S' fractionLayout.toList t.textNano =
      fixedDigits 9 (DateTime.fraction t.time) := by
    rw [fractionLayout_toList, textNano_eq, placesOf_append hlength,
      placesOf_of_forall_ne ne_fraction_of_mem_timeLayout, List.nil_append]
    rfl
  have hbound : DateTime.fraction t.time < 10 ^ 9 := Nat.mod_lt _ (by decide)
  rw [hdigits, Calendar.nanoOf_fixedDigits (by decide) hbound, Nat.sub_self, pow_zero,
    Nat.mul_one]

end

/-- A text is read as the date and the clock whose fields stand in its places. -/
theorem Places.readIn_eq {layout text : List Char} {t : DateTime} (h : Places layout text t)
    (hyear : 0 ≤ t.date.year ∧ t.date.year ≤ 9999) :
    readIn layout text = (TimeOfDay.ofParts? t.time.hour t.time.minute
      (t.time.second + t.time.nano / 1000000000)
      (Calendar.nanoOf (placesOf 'S' layout text))).map (DateTime.mk t.date) := by
  have hfield {letter : Char} {places n : Nat}
      (hplaces : placesOf letter layout text = fixedDigits places n) (hn : n < 10 ^ places) :
      fieldOf letter layout text = n := by
    rw [fieldOf, hplaces, digitsValue_fixedDigits, Nat.mod_eq_of_lt hn]
  obtain ⟨-, ⟨-, hmonth⟩, -, hday⟩ := t.date.valid
  obtain ⟨hhour, hminute, hsecond, hnano⟩ := t.time.valid
  have hlast := Calendar.daysIn_le t.date.year t.date.month
  have hdate : Date.ofParts? t.date.year.toNat t.date.month t.date.day = some t.date :=
    Date.ofParts?_eq_some_iff.mpr ⟨(Int.toNat_of_nonneg hyear.1).symm, rfl, rfl⟩
  rw [readIn, if_pos h.shape, hfield h.year (by omega), hfield h.month (by omega),
    hfield h.day (by omega), hfield h.hour (by omega), hfield h.minute (by omega),
    hfield h.second (by omega), hdate]
  rfl

/-- What a clock shows is the time again, except for a leap second. -/
theorem ofParts?_eq_self_iff (t : TimeOfDay) :
    TimeOfDay.ofParts? t.hour t.minute (t.second + t.nano / 1000000000) (DateTime.fraction t) =
      some t ↔ t.nano < 1000000000 := by
  rw [TimeOfDay.ofParts?_eq_some_iff, DateTime.fraction, TimeOfDay.IsShown, Calendar.Shown]
  omega

/-! ### Ranges -/

/-- The key of the bound for each operator that orders. -/
def boundKeys : List (Operator × String) :=
  [(.greaterThan, "gt"), (.greaterThanEq, "gte"), (.lessThan, "lt"), (.lessThanEq, "lte")]

theorem mem_boundKeys {o : Operator} (h : o.isOrdering = true) :
    (o, (boundOf o).key) ∈ boundKeys := by
  revert h
  cases o <;> decide

/-- The layouts that a range may name. -/
def layouts : List String := ["yyyy-MM-dd HH:mm:ss", "yyyy-MM-dd HH:mm:ss.SSSSSSSSS"]

/-- The layout for a time: only a fraction of a second needs the longer one. -/
def layoutOf (t : DateTime) : String :=
  if t.time.nano = 0 then "yyyy-MM-dd HH:mm:ss" else "yyyy-MM-dd HH:mm:ss.SSSSSSSSS"

theorem layoutOf_mem (t : DateTime) : layoutOf t ∈ layouts := by
  unfold layoutOf
  split <;> decide

/-- The text of a time in its layout. -/
def boundText (t : DateTime) : List Char := if t.time.nano = 0 then t.text else t.textNano

theorem rangeMembers_time (bound : Bound) (t : DateTime) :
    rangeMembers bound (.time t) =
      [("format", .string (layoutOf t)), (bound.key, .string (String.ofList (boundText t)))] := by
  by_cases h : t.time.nano = 0
  · simp only [rangeMembers, layoutOf, boundText, h, ne_eq, not_true_eq_false, if_false, if_true]
    rfl
  · simp only [rangeMembers, layoutOf, boundText, h, ne_eq, not_false_eq_true, if_false, if_true]
    rfl

section

variable {t : DateTime} (hyear : 0 ≤ t.date.year ∧ t.date.year ≤ 9999)

include hyear

theorem places_boundText : Places (layoutOf t).toList (boundText t) t := by
  by_cases h : t.time.nano = 0
  · rw [layoutOf, boundText, if_pos h, if_pos h, text_of_whole h]
    exact places_secondsText hyear
  · rw [layoutOf, boundText, if_neg h, if_neg h]
    exact places_textNano hyear

theorem fraction_boundText :
    Calendar.nanoOf (placesOf 'S' (layoutOf t).toList (boundText t)) =
      DateTime.fraction t.time := by
  by_cases h : t.time.nano = 0
  · rw [layoutOf, if_pos h, DateTime.fraction, h]
    exact congrArg Calendar.nanoOf (placesOf_of_forall_ne ne_fraction_of_mem_timeLayout _)
  · rw [layoutOf, boundText, if_neg h, if_neg h]
    exact fraction_textNano hyear

/-- Layouts of different lengths do not read the same text. -/
theorem readIn_boundText_of_ne {other : String} (hother : other ∈ layouts)
    (hne : other ≠ layoutOf t) : readIn other.toList (boundText t) = none := by
  have hlength := length_eq_of_fits (places_boundText hyear).shape
  have hlayouts : ∀ l ∈ layouts, ∀ m ∈ layouts, l ≠ m → l.toList.length ≠ m.toList.length := by
    decide
  apply readIn_of_length_ne
  rw [hlength]
  exact (hlayouts other hother (layoutOf t) (layoutOf_mem t) hne).symm

end

/-- A year with a sign takes more than the four places that a layout has for it. -/
theorem readIn_boundText_of_year {t : DateTime} (h : ¬(0 ≤ t.date.year ∧ t.date.year ≤ 9999)) :
    readIn (layoutOf t).toList (boundText t) = none := by
  have hseconds : (secondsText t).length = (DateTime.yearText t.date.year).length + 15 := by
    simp [secondsText, DateTime.dateText, DateTime.clockText, length_fixedDigits]
  have hyear : 4 < (DateTime.yearText t.date.year).length := by
    rw [DateTime.yearText, if_neg h, List.length_cons, paddedDigits, List.length_append,
      List.length_replicate]
    omega
  apply readIn_of_length_ne
  by_cases hwhole : t.time.nano = 0
  · have hlayout : (layoutOf t).toList.length = 19 := by
      rw [layoutOf, if_pos hwhole]
      rfl
    rw [hlayout, boundText, if_pos hwhole, text_of_whole hwhole, hseconds]
    omega
  · have hlayout : (layoutOf t).toList.length = 29 := by
      rw [layoutOf, if_neg hwhole]
      rfl
    rw [hlayout, boundText, if_neg hwhole, textNano_eq, List.length_append, hseconds,
      List.length_cons, length_fixedDigits]
    omega

/-- **The times that their layout gives back** are those of a year of four digits, leap seconds
    aside. -/
theorem readIn_boundText_eq_some_iff {t : DateTime} :
    readIn (layoutOf t).toList (boundText t) = some t ↔
      (0 ≤ t.date.year ∧ t.date.year ≤ 9999) ∧ t.time.nano < 1000000000 := by
  by_cases hyear : 0 ≤ t.date.year ∧ t.date.year ≤ 9999
  · rw [(places_boundText hyear).readIn_eq hyear, fraction_boundText hyear, and_iff_right hyear,
      ← ofParts?_eq_self_iff, Option.map_eq_some_iff]
    constructor
    · rintro ⟨time, htime, hsame⟩
      exact htime.trans (congrArg (fun u => some u.time) hsame)
    · intro htime
      exact ⟨t.time, htime, rfl⟩
  · rw [readIn_boundText_of_year hyear]
    exact ⟨nofun, fun h => absurd h.1 hyear⟩

/-- **The bound of a range of times fits the layout beside it, and gives back the time.**  The body
    of the range has one bound, with the key of the operator, and the layout; for a year of four
    digits and a time that is not a leap second, the text is read in that layout as the operand
    itself, to the nanosecond, and in the other layout not at all. -/
theorem timeRange_reads_back (zone : Offset) {c n : Condition} {t : DateTime}
    (htype : c.valueType = .time) (hop : c.operator.isOrdering = true)
    (hn : c.normalized = .ok n) (ht : n.operand = some (.time t))
    (hyear : 0 ≤ t.date.year ∧ t.date.year ≤ 9999) (hleap : t.time.nano < 1000000000) :
    ∃ key text, (c.operator, key) ∈ boundKeys ∧
      c.toSearch zone = .search (.object [("range", .object [(c.identifier, .object
        [("format", .string (layoutOf t)), (key, .string text)])])]) ∧
      readIn (layoutOf t).toList text.toList = some t ∧
      ∀ other ∈ layouts, other ≠ layoutOf t → readIn other.toList text.toList = none := by
  obtain ⟨hidentifier, -, hoperator⟩ := Condition.normalized_keeps hn
  have hfamily : c.operator.family = .ordering := eq_of_beq hop
  have hsupported : c.isSupported = true :=
    Operator.Compares.supports_eq (.inr hfamily) (.inr htype)
  have hquery : queryOf? zone n = some (.range c.identifier (boundOf c.operator) (.time t)) := by
    simp only [queryOf?, hoperator, hfamily, ht, Option.map_some, hidentifier]
  refine ⟨(boundOf c.operator).key, String.ofList (boundText t), mem_boundKeys hop, ?_, ?_, ?_⟩
  · rw [toSearch_of_queryOf? hsupported hn hquery, Query.toJson, rangeMembers_time]
    rfl
  · rw [String.toList_ofList]
    exact readIn_boundText_eq_some_iff.mpr ⟨hyear, hleap⟩
  · intro other hother hne
    rw [String.toList_ofList]
    exact readIn_boundText_of_ne hyear hother hne

/-- One nanosecond before the end of a leap day. -/
theorem timeRange_reads_back_fraction :
    let t : DateTime := ⟨⟨2024, 2, 29, by decide⟩, ⟨23, 59, 59, 999999999, by decide⟩⟩
    let c : Condition :=
      { identifier := "at", valueType := .time, operator := .lessThanEq, operand := some (.time t) }
    ∃ key text, (c.operator, key) ∈ boundKeys ∧
      c.toSearch .utc = .search (.object [("range", .object [(c.identifier, .object
        [("format", .string (layoutOf t)), (key, .string text)])])]) ∧
      readIn (layoutOf t).toList text.toList = some t ∧
      ∀ other ∈ layouts, other ≠ layoutOf t → readIn other.toList text.toList = none :=
  timeRange_reads_back .utc rfl rfl rfl rfl (by decide) (by decide)

end Search

end Criteria
