/-
  Criteria/Proofs/LogFilter.lean
  ==============================
  **Which filters there are.**  A directive without blanks around it is one exactly if
  the grammar below writes it (`isDirective_iff`): a name, a span in brackets with
  fields in braces, and a level, where a level never stands without one of the others.
  Filters are joined by commas, and what is joined is a filter exactly if its parts are
  (`isFilter_append`).  A level alone is a name too, so that no log level that is a
  single name is ever refused, not even one that is no level.
-/
import Criteria.LogFilter
import Criteria.Proofs.Regex
import Criteria.Proofs.Text.Blank
import Criteria.Proofs.Text.Octets

namespace Criteria

namespace LogFilter

open Text

/-! ### The grammar of directives -/

/-- What may follow a name or a span: nothing, or a level after an equals sign. -/
inductive LevelPart : List Char → Prop where
  | absent : LevelPart []
  | level {l : List Char} (h : isLevel l = true) : LevelPart ('=' :: l)

/-- What may follow an opening bracket: a text, perhaps fields in braces, the closing bracket, and a
    level. -/
inductive SpanPart : List Char → Prop where
  | bare {name rest : List Char} (hname : ∀ c ∈ name, c ≠ ']' ∧ c ≠ '\x7b')
      (hrest : LevelPart rest) : SpanPart (name ++ ']' :: rest)
  | fields {name fs rest : List Char} (hname : ∀ c ∈ name, c ≠ ']' ∧ c ≠ '\x7b')
      (hend : ∀ c ∈ fs, c ≠ '\x7d') (hfield : isField fs = true) (hrest : LevelPart rest) :
      SpanPart (name ++ '\x7b' :: (fs ++ '\x7d' :: ']' :: rest))

/-- What may follow the first character of a name. -/
inductive NamePart : List Char → Prop where
  | alone {name rest : List Char} (hname : ∀ c ∈ name, c ≠ '=' ∧ c ≠ '[')
      (hrest : LevelPart rest) : NamePart (name ++ rest)
  | spanned {name rest : List Char} (hname : ∀ c ∈ name, c ≠ '=' ∧ c ≠ '[')
      (hrest : SpanPart rest) : NamePart (name ++ '[' :: rest)

inductive Directive : List Char → Prop where
  | named {c : Char} {rest : List Char} (hfirst : startsName c = true) (hrest : NamePart rest) :
      Directive (c :: rest)
  | span {rest : List Char} (hrest : SpanPart rest) : Directive ('[' :: rest)

/-! ### Runs -/

/-- A directive may end at a place. -/
def Place.accepts (whole : List Char) : Place → Bool
  | .level since => (cut? since whole).any fun r => isLevel r.2
  | .name | .afterSpan => true
  | _ => false

theorem isDirective_eq (cs : List Char) :
    isDirective cs = (Place.start.run cs 0 (trim cs)).any (Place.accepts cs) := by
  unfold isDirective
  cases Place.start.run cs 0 (trim cs) with
  | none => rfl
  | some p => cases p <;> rfl

theorem Place.run_append (whole : List Char) (i : Nat) (p : Place) (a b : List Char) :
    p.run whole i (a ++ b) = (p.run whole i a).bind fun q => q.run whole (i + width a) b := by
  induction a generalizing i p with
  | nil => rfl
  | cons c a ih =>
    rw [List.cons_append, run, run, Option.bind_assoc]
    congr 1
    funext q
    rw [ih, width_cons, Nat.add_assoc]

/-- A run over characters that do not lead away from its place ends there. -/
theorem Place.run_stays {whole : List Char} {p : Place} {a : List Char}
    (h : ∀ c ∈ a, ∀ i, p.step whole i c = some p) (i : Nat) : p.run whole i a = some p := by
  induction a generalizing i with
  | nil => rfl
  | cons c a ih =>
    rw [run, h c List.mem_cons_self, Option.bind_some]
    exact ih (fun d hd => h d (List.mem_cons_of_mem c hd)) _

/-- A directive may end where the run over the rest of its text, behind a front, ends. -/
def Ends (front : List Char) (p : Place) (cs : List Char) : Bool :=
  (p.run (front ++ cs) (width front) cs).any (Place.accepts (front ++ cs))

theorem ends_nil (front : List Char) (p : Place) : Ends front p [] = p.accepts (front ++ []) := rfl

theorem ends_cons (front : List Char) (p : Place) (c : Char) (cs : List Char) :
    Ends front p (c :: cs) =
      (p.step (front ++ c :: cs) (width front) c).any fun q => Ends (front ++ [c]) q cs := by
  have hwidth : width (front ++ [c]) = width front + c.utf8Size := by
    rw [width_append, width_cons]
    rfl
  have hwhole : front ++ [c] ++ cs = front ++ c :: cs := by simp
  unfold Ends
  rw [Place.run, hwidth, hwhole]
  cases p.step (front ++ c :: cs) (width front) c <;> rfl

/-- Characters that do not lead away from a place are added to the front. -/
theorem ends_append {front a : List Char} {p : Place} (cs : List Char)
    (h : ∀ c ∈ a, ∀ whole i, p.step whole i c = some p) :
    Ends front p (a ++ cs) = Ends (front ++ a) p cs := by
  have hrun : p.run (front ++ (a ++ cs)) (width front) a = some p :=
    Place.run_stays (fun c hc => h c hc _) (width front)
  unfold Ends
  rw [Place.run_append, hrun, Option.bind_some, width_append, List.append_assoc]

/-- A text is cut where a character stands that is not of a kind. -/
theorem exists_front (p : Char → Bool) (cs : List Char) :
    ∃ a b, cs = a ++ b ∧ (∀ c ∈ a, p c = true) ∧ ∀ c ∈ b.head?, p c = false := by
  refine ⟨cs.takeWhile p, cs.dropWhile p, List.takeWhile_append_dropWhile.symm, ?_, ?_⟩
  · intro c hc
    exact List.mem_takeWhile_imp hc
  · intro c hc
    have hhead := List.head?_dropWhile_not p cs
    rw [Option.mem_def.mp hc] at hhead
    simpa using hhead

/-! ### Places and the grammar -/

theorem ends_level (front cs : List Char) : Ends front (.level (width front)) cs = isLevel cs := by
  have hstays : Ends front (.level (width front)) (cs ++ []) =
      Ends (front ++ cs) (.level (width front)) [] := ends_append [] fun _ _ _ _ => rfl
  rw [List.append_nil] at hstays
  rw [hstays, ends_nil, List.append_nil, Place.accepts, cut?_width]
  rfl

theorem ends_afterSpan_iff {front cs : List Char} :
    Ends front .afterSpan cs = true ↔ LevelPart cs := by
  cases cs with
  | nil => exact iff_of_true rfl .absent
  | cons c cs =>
    rw [ends_cons, Place.step]
    split_ifs with hc
    · have hwidth : width front + 1 = width (front ++ ['=']) := (width_append front ['=']).symm
      rw [hc, Option.any_some, hwidth, ends_level]
      constructor
      · exact .level
      · rintro (_ | h)
        exact h
    · simp only [Option.any_none, Bool.false_eq_true, false_iff]
      rintro (_ | _)
      exact hc rfl

theorem ends_afterFields_iff {front cs : List Char} :
    Ends front .afterFields cs = true ↔ ∃ rest, cs = ']' :: rest ∧ LevelPart rest := by
  cases cs with
  | nil => simp [ends_nil, Place.accepts]
  | cons c cs =>
    rw [ends_cons, Place.step]
    split_ifs with hc
    · simp [hc, ends_afterSpan_iff]
    · simp [hc]

/-- Fields end with the first closing brace, and the closing bracket stands right behind it. -/
theorem ends_field_iff {front cs : List Char} :
    Ends front (.field (width front)) cs = true ↔
      ∃ fs rest, cs = fs ++ '\x7d' :: ']' :: rest ∧ (∀ c ∈ fs, c ≠ '\x7d') ∧
        isField fs = true ∧ LevelPart rest := by
  have hbrace : ∀ fs rest : List Char, (∀ c ∈ fs, c ≠ '\x7d') →
      Ends front (.field (width front)) (fs ++ '\x7d' :: rest) =
        (isField fs && Ends (front ++ fs ++ ['\x7d']) .afterFields rest) := by
    intro fs rest hfs
    have hcut : between? (width front) (width (front ++ fs)) (front ++ fs ++ '\x7d' :: rest) =
        some fs := by
      rw [List.append_assoc]
      exact between?_width front fs _
    rw [ends_append _ (fun c hc whole i => by rw [Place.step, if_neg (hfs c hc)]), ends_cons,
      Place.step, if_pos rfl, hcut, Option.any_some]
    cases isField fs <;> rfl
  constructor
  · intro h
    obtain ⟨fs, b, rfl, hfs, hb⟩ := exists_front (· ≠ '\x7d') cs
    have hfs' : ∀ c ∈ fs, c ≠ '\x7d' := fun c hc => by simpa using hfs c hc
    cases b with
    | nil =>
      rw [ends_append _ (fun c hc whole i => by rw [Place.step, if_neg (hfs' c hc)])] at h
      exact nomatch h
    | cons d b =>
      obtain rfl : d = '\x7d' := by simpa using hb d rfl
      rw [hbrace fs b hfs', Bool.and_eq_true, ends_afterFields_iff] at h
      obtain ⟨hfield, rest, rfl, hrest⟩ := h
      exact ⟨fs, rest, rfl, hfs', hfield, hrest⟩
  · rintro ⟨fs, rest, rfl, hfs, hfield, hrest⟩
    rw [hbrace fs _ hfs, hfield, Bool.true_and]
    exact ends_afterFields_iff.mpr ⟨rest, rfl, hrest⟩

theorem ends_span_iff {front cs : List Char} :
    Ends front .span cs = true ↔ SpanPart cs := by
  have hstays : ∀ name rest : List Char, (∀ c ∈ name, c ≠ ']' ∧ c ≠ '\x7b') →
      Ends front .span (name ++ rest) = Ends (front ++ name) .span rest := by
    intro name rest hname
    apply ends_append
    intro c hc whole i
    rw [Place.step, if_neg (hname c hc).1, if_neg (hname c hc).2]
  have hbracket : ∀ name rest : List Char, (∀ c ∈ name, c ≠ ']' ∧ c ≠ '\x7b') →
      (Ends front .span (name ++ ']' :: rest) = true ↔ LevelPart rest) := by
    intro name rest hname
    rw [hstays _ _ hname, ends_cons, Place.step, if_pos rfl]
    exact ends_afterSpan_iff
  have hbrace : ∀ name rest : List Char, (∀ c ∈ name, c ≠ ']' ∧ c ≠ '\x7b') →
      (Ends front .span (name ++ '\x7b' :: rest) = true ↔
        ∃ fs after, rest = fs ++ '\x7d' :: ']' :: after ∧ (∀ c ∈ fs, c ≠ '\x7d') ∧
          isField fs = true ∧ LevelPart after) := by
    intro name rest hname
    have hwidth : width (front ++ name) + 1 = width (front ++ name ++ ['\x7b']) :=
      (width_append (front ++ name) ['\x7b']).symm
    rw [hstays _ _ hname, ends_cons, Place.step, if_neg (by decide), if_pos rfl, Option.any_some,
      hwidth]
    exact ends_field_iff
  constructor
  · intro h
    obtain ⟨name, b, rfl, hname, hb⟩ := exists_front (fun c => c ≠ ']' ∧ c ≠ '\x7b') cs
    have hname' : ∀ c ∈ name, c ≠ ']' ∧ c ≠ '\x7b' := fun c hc => by simpa using hname c hc
    cases b with
    | nil =>
      rw [hstays _ _ hname'] at h
      exact nomatch h
    | cons d b =>
      by_cases hd : d = ']'
      · rw [hd] at h ⊢
        exact .bare hname' ((hbracket name b hname').mp h)
      · obtain rfl : d = '\x7b' := by simpa [hd] using hb d rfl
        obtain ⟨fs, rest, rfl, hfs, hfield, hrest⟩ := (hbrace name b hname').mp h
        exact .fields hname' hfs hfield hrest
  · rintro (⟨hname, hrest⟩ | ⟨hname, hend, hfield, hrest⟩)
    · exact (hbracket _ _ hname).mpr hrest
    · exact (hbrace _ _ hname).mpr ⟨_, _, rfl, hend, hfield, hrest⟩

theorem ends_name_iff {front cs : List Char} : Ends front .name cs = true ↔ NamePart cs := by
  have hstays : ∀ name rest : List Char, (∀ c ∈ name, c ≠ '=' ∧ c ≠ '[') →
      Ends front .name (name ++ rest) = Ends (front ++ name) .name rest := by
    intro name rest hname
    apply ends_append
    intro c hc whole i
    rw [Place.step, if_neg (hname c hc).1, if_neg (hname c hc).2]
  have hlevel : ∀ name l : List Char, (∀ c ∈ name, c ≠ '=' ∧ c ≠ '[') →
      Ends front .name (name ++ '=' :: l) = isLevel l := by
    intro name l hname
    have hwidth : width (front ++ name) + 1 = width (front ++ name ++ ['=']) :=
      (width_append (front ++ name) ['=']).symm
    rw [hstays _ _ hname, ends_cons, Place.step, if_pos rfl, Option.any_some, hwidth, ends_level]
  have hspan : ∀ name rest : List Char, (∀ c ∈ name, c ≠ '=' ∧ c ≠ '[') →
      (Ends front .name (name ++ '[' :: rest) = true ↔ SpanPart rest) := by
    intro name rest hname
    rw [hstays _ _ hname, ends_cons, Place.step, if_neg (by decide), if_pos rfl]
    exact ends_span_iff
  constructor
  · intro h
    obtain ⟨name, b, rfl, hname, hb⟩ := exists_front (fun c => c ≠ '=' ∧ c ≠ '[') cs
    have hname' : ∀ c ∈ name, c ≠ '=' ∧ c ≠ '[' := fun c hc => by simpa using hname c hc
    cases b with
    | nil => exact .alone hname' .absent
    | cons d b =>
      by_cases hequals : d = '='
      · rw [hequals] at h ⊢
        rw [hlevel name b hname'] at h
        exact .alone hname' (.level h)
      · obtain rfl : d = '[' := by simpa [hequals] using hb d rfl
        exact .spanned hname' ((hspan name b hname').mp h)
  · rintro (⟨hname, hrest⟩ | ⟨hname, hrest⟩)
    · rcases hrest with _ | hl
      · rw [hstays _ _ hname]
        rfl
      · rw [hlevel _ _ hname]
        exact hl
    · exact (hspan _ _ hname).mpr hrest

theorem ends_start_iff {cs : List Char} : Ends [] .start cs = true ↔ Directive cs := by
  cases cs with
  | nil =>
    rw [ends_nil]
    constructor
    · intro h
      exact nomatch h
    · intro h
      exact nomatch h
  | cons c cs =>
    rw [ends_cons, Place.step]
    split_ifs with hbracket hname
    · rw [hbracket, Option.any_some, ends_span_iff]
      constructor
      · exact .span
      · rintro (⟨hfirst, -⟩ | hrest)
        · exact absurd hfirst (by decide +kernel)
        · exact hrest
    · rw [Option.any_some, ends_name_iff]
      constructor
      · exact .named hname
      · rintro (⟨-, hrest⟩ | -)
        · exact hrest
        · exact absurd rfl hbracket
    · rw [Option.any_none]
      constructor
      · intro h
        exact nomatch h
      · rintro (⟨hfirst, -⟩ | -)
        · exact absurd hfirst hname
        · exact absurd rfl hbracket

/-- **A directive is what the grammar writes**, if no blanks stand around it. -/
theorem isDirective_iff {cs : List Char} (hbare : trim cs = cs) :
    isDirective cs = true ↔ Directive cs := by
  rw [isDirective_eq, hbare, ← ends_start_iff]
  rfl

/-- Around a name alone blanks may stand. -/
theorem isDirective_of_name {cs name : List Char} {c : Char} (htrim : trim cs = c :: name)
    (hfirst : startsName c = true) (hname : ∀ d ∈ name, d ≠ '=' ∧ d ≠ '[') :
    isDirective cs = true := by
  have hc : c ≠ '[' := by
    rintro rfl
    exact absurd hfirst (by decide +kernel)
  have hstays : ∀ i, Place.name.run cs i name = some .name := by
    apply Place.run_stays
    intro d hd i
    rw [Place.step, if_neg (hname d hd).1, if_neg (hname d hd).2]
  rw [isDirective_eq, htrim, Place.run, Place.step, if_neg hc, if_pos hfirst, Option.bind_some,
    hstays]
  rfl

/-! ### Levels -/

/-- The number of a level, perhaps after a plus sign. -/
def IsLevelNumber (n : Nat) (cs : List Char) : Prop :=
  IsNumeral n cs ∨ ∃ ds, cs = '+' :: ds ∧ IsNumeral n ds

theorem isLevelNumber_plus {n : Nat} {ds : List Char} :
    IsLevelNumber n ('+' :: ds) ↔ IsNumeral n ds := by
  constructor
  · rintro (h | ⟨es, hes, h⟩)
    · exact absurd (h.digits '+' List.mem_cons_self) (by decide)
    · rw [(List.cons.inj hes).2]
      exact h
  · intro h
    exact .inr ⟨ds, rfl, h⟩

theorem isLevelNumber_bare {n : Nat} {cs : List Char} (hplus : ∀ ds, cs ≠ '+' :: ds) :
    IsLevelNumber n cs ↔ IsNumeral n cs := by
  constructor
  · rintro (h | ⟨ds, hds, -⟩)
    · exact h
    · exact absurd hds (hplus ds)
  · exact .inl

/-- A level is nothing at all, the name of one in any case, or its number. -/
theorem isLevel_iff {cs : List Char} :
    isLevel cs = true ↔ cs = [] ∨ (∃ n ∈ levelNames, sameName cs n.toList = true) ∨
      ∃ n < levelNames.length, IsLevelNumber n cs := by
  unfold isLevel
  split
  · next ds =>
    simp only [isLevelNumber_plus, Bool.or_eq_true, List.isEmpty_iff, List.any_eq_true,
      Option.any_eq_true, decide_eq_true_eq, readNat_eq_some_iff, or_assoc, and_comm]
  · next hplus =>
    simp only [isLevelNumber_bare hplus, Bool.or_eq_true, List.isEmpty_iff, List.any_eq_true,
      Option.any_eq_true, decide_eq_true_eq, readNat_eq_some_iff, or_assoc, and_comm]

theorem isUpper_iff {c : Char} : c.isUpper = true ↔ 65 ≤ c.toNat ∧ c.toNat ≤ 90 :=
  decide_eq_true_iff

theorem isLower_iff {c : Char} : c.isLower = true ↔ 97 ≤ c.toNat ∧ c.toNat ≤ 122 := by
  have hparts : c.isLower = true ↔
      decide (97 ≤ c.toNat) = true ∧ decide (c.toNat ≤ 122) = true := Bool.and_eq_true_iff
  rw [hparts, decide_eq_true_iff, decide_eq_true_iff]

theorem isAlpha_iff {c : Char} :
    c.isAlpha = true ↔ 65 ≤ c.toNat ∧ c.toNat ≤ 90 ∨ 97 ≤ c.toNat ∧ c.toNat ≤ 122 := by
  have hparts : c.isAlpha = true ↔ c.isUpper = true ∨ c.isLower = true := Bool.or_eq_true_iff
  rw [hparts, isUpper_iff, isLower_iff]

theorem isAlpha_of_toLower {c : Char} (h : c.toLower.isLower = true) : c.isAlpha = true := by
  rw [isAlpha_iff]
  unfold Char.toLower at h
  split at h
  · next hupper => exact .inl hupper
  · exact .inr (isLower_iff.mp h)

theorem startsName_of_isAlpha {c : Char} (h : c.isAlpha = true) : startsName c = true := by
  have hascii : c.toNat < 0x80 := by
    have := isAlpha_iff.mp h
    omega
  simp [startsName, isAlphanumeric, hascii, Char.isAlphanum, h]

theorem isBlank_of_isAlpha {c : Char} (h : c.isAlpha = true) : isBlank c = false := by
  have hrange := isAlpha_iff.mp h
  simp only [isBlank, blankRanges, List.any_cons, List.any_nil]
  simp
  omega

/-- The name of a level is written in letters, whatever their case. -/
theorem isAlpha_of_sameName {cs : List Char} {n : String} (hn : n ∈ levelNames)
    (h : sameName cs n.toList = true) : ∀ c ∈ cs, c.isAlpha = true := by
  intro c hc
  have hmem : c.toLower ∈ n.toList.map Char.toLower := by
    rw [← eq_of_beq h]
    exact List.mem_map_of_mem hc
  have hnames : (levelNames.all fun n => (n.toList.map Char.toLower).all Char.isLower) = true := by
    decide +kernel
  exact isAlpha_of_toLower (List.all_eq_true.mp (List.all_eq_true.mp hnames n hn) _ hmem)

/-! ### Fields -/

/-- A field's value is what stands between its first equals sign and the next. -/
theorem isField_value {name value : List Char} (hname : '=' ∉ name) (hvalue : '=' ∉ value) :
    isField (name ++ '=' :: value) = isFieldValue value := by
  rw [isField, List.splitOn_append_cons_self, List.splitOn_eq_singleton hname,
    List.splitOn_eq_singleton hvalue]
  simp

theorem isFieldValue_of_plain {value : List Char} (h : ∀ c ∈ value, Regex.IsPlain c) :
    isFieldValue value = true := by
  rw [isFieldValue, Regex.isWritten_of_plain h, Bool.or_true]

/-- A span with a field whose value is a text without marks is a directive. -/
theorem isDirective_of_field {span name value level : List Char}
    (hspan : ∀ c ∈ span, c ≠ ']' ∧ c ≠ '\x7b') (hname : ∀ c ∈ name, c ≠ '=' ∧ c ≠ '\x7d')
    (hvalue : ∀ c ∈ value, (c ≠ '=' ∧ c ≠ '\x7d') ∧ Regex.IsPlain c) (hlevel : LevelPart level)
    (hlast : ∀ c ∈ level.getLast?, isBlank c = false) :
    isDirective ('[' :: (span ++ '\x7b' :: ((name ++ '=' :: value) ++ '\x7d' :: ']' :: level))) =
      true := by
  have hfield : isField (name ++ '=' :: value) = true := by
    rw [isField_value (fun h => (hname _ h).1 rfl) (fun h => (hvalue _ h).1.1 rfl)]
    exact isFieldValue_of_plain fun c hc => (hvalue c hc).2
  have hend : ∀ c ∈ name ++ '=' :: value, c ≠ '\x7d' := by
    intro c hc
    rcases List.mem_append.mp hc with hc | hc
    · exact (hname c hc).2
    · rcases List.mem_cons.mp hc with rfl | hc
      · decide
      · exact (hvalue c hc).1.2
  refine (isDirective_iff (trim_eq_self ?_ ?_)).mpr (.span (.fields hspan hend hfield hlevel))
  · intro c hc
    obtain rfl : '[' = c := Option.some.inj hc
    decide
  · intro c hc
    have hfront : ∀ front : List Char, (front ++ ']' :: level).getLast? = (']' :: level).getLast? :=
      fun front => List.getLast?_append_of_ne_nil front (List.cons_ne_nil _ _)
    have hwhole : '[' :: (span ++ '\x7b' :: ((name ++ '=' :: value) ++ '\x7d' :: ']' :: level)) =
        ('[' :: (span ++ '\x7b' :: ((name ++ '=' :: value) ++ ['\x7d']))) ++ ']' :: level := by
      simp
    rw [hwhole, hfront] at hc
    cases hlevel with
    | absent =>
      obtain rfl : ']' = c := Option.some.inj hc
      decide
    | level h => exact hlast c hc

/-! ### Filters -/

/-- **Filters are joined by commas.** -/
theorem isFilter_append (a b : List Char) :
    isFilter (a ++ ',' :: b) = (isFilter a && isFilter b) := by
  rw [isFilter, List.splitOn_append_cons_self, List.all_append]
  rfl

theorem isFilter_iff {cs : List Char} :
    isFilter cs = true ↔ ∀ p ∈ cs.splitOn ',', p = [] ∨ isDirective p = true := by
  simp [isFilter]

-- A blank before a name with a level shifts the octets from which the level is cut.
example : isFilter "a=info,[s]=2".toList = true ∧ isFilter " a=info".toList = false := by
  decide +kernel

/-- A name alone is a filter, be it that of a level or not. -/
theorem isFilter_of_name {cs name : List Char} {c : Char} (htrim : trim cs = c :: name)
    (hfirst : startsName c = true) (hname : ∀ d ∈ name, d ≠ '=' ∧ d ≠ '[') (hcomma : ',' ∉ cs) :
    isFilter cs = true := by
  rw [isFilter_iff, List.splitOn_eq_singleton hcomma]
  intro p hp
  rw [List.mem_singleton.mp hp]
  exact .inr (isDirective_of_name htrim hfirst hname)

/-- Every level is a filter by its name, in any case. -/
theorem isFilter_levelName {cs : List Char} {n : String} (hn : n ∈ levelNames)
    (h : sameName cs n.toList = true) : isFilter cs = true := by
  have hletters := isAlpha_of_sameName hn h
  have hmark : ∀ c ∈ cs, ∀ d : Char, d.isAlpha = false → c ≠ d := by
    rintro c hc d hd rfl
    rw [hletters c hc] at hd
    exact nomatch hd
  cases cs with
  | nil => rfl
  | cons c name =>
    have htrim : trim (c :: name) = c :: name :=
      trim_eq_self (fun d hd => isBlank_of_isAlpha (hletters d (List.mem_of_mem_head? hd)))
        fun d hd => isBlank_of_isAlpha (hletters d (List.mem_of_mem_getLast? hd))
    refine isFilter_of_name htrim (startsName_of_isAlpha (hletters c List.mem_cons_self)) ?_ ?_
    · intro d hd
      have hd' := List.mem_cons_of_mem c hd
      exact ⟨hmark d hd' '=' rfl, hmark d hd' '[' rfl⟩
    · intro hcomma
      exact hmark ',' hcomma ',' rfl rfl

end LogFilter

/-! ### The filter in force -/

namespace Settings

open LogFilter

theorem logFilter_of_isFilter {u : String} (h : isFilter u.toList = true) (s : Settings) :
    s.logFilter (some u) = .ok u := by
  have hsome : (some u).filter (fun t => isFilter t.toList) = some u := Option.filter_some_pos h
  rw [logFilter, hsome]

theorem logFilter_of_level (s : Settings) {surrounding : Option String}
    (h : ∀ u, surrounding = some u → isFilter u.toList = false) :
    s.logFilter surrounding =
      if isFilter s.logLevel.toList then .ok s.logLevel
      else .error (.invalidLogLevel s.logLevel) := by
  have hnone : surrounding.filter (fun t => isFilter t.toList) = none := by
    rw [Option.filter_eq_none_iff]
    intro u hu
    rw [h u hu]
    exact Bool.false_ne_true
  rw [logFilter, hnone]

/-- **Which filter is in force.**  The one of the surroundings, if it is one at all, and else the
    log level, if that is one. -/
theorem logFilter_eq_ok_iff {s : Settings} {surrounding : Option String} {t : String} :
    s.logFilter surrounding = .ok t ↔
      isFilter t.toList = true ∧ (surrounding = some t ∨
        (∀ u, surrounding = some u → isFilter u.toList = false) ∧ t = s.logLevel) := by
  by_cases hnone : ∀ u, surrounding = some u → isFilter u.toList = false
  · rw [s.logFilter_of_level hnone]
    constructor
    · intro h
      split_ifs at h with hlevel
      rw [← Except.ok.inj h]
      exact ⟨hlevel, .inr ⟨hnone, rfl⟩⟩
    · rintro ⟨ht, h | ⟨-, rfl⟩⟩
      · rw [hnone t h] at ht
        exact nomatch ht
      · rw [if_pos ht]
  · obtain ⟨u, hu⟩ := not_forall.mp hnone
    obtain ⟨rfl, hfilter⟩ := Classical.not_imp.mp hu
    rw [Bool.not_eq_false] at hfilter
    rw [logFilter_of_isFilter hfilter]
    constructor
    · intro h
      rw [← Except.ok.inj h]
      exact ⟨hfilter, .inl rfl⟩
    · rintro ⟨-, h | ⟨h, -⟩⟩
      · rw [Option.some.inj h]
      · exact absurd h hnone

/-- A log level is refused only where no other filter is in force, and with its own text. -/
theorem logFilter_eq_error_iff {s : Settings} {surrounding : Option String} {e : SettingsError} :
    s.logFilter surrounding = .error e ↔
      e = .invalidLogLevel s.logLevel ∧ isFilter s.logLevel.toList = false ∧
        ∀ u, surrounding = some u → isFilter u.toList = false := by
  by_cases hnone : ∀ u, surrounding = some u → isFilter u.toList = false
  · rw [s.logFilter_of_level hnone]
    cases isFilter s.logLevel.toList with
    | true => simp
    | false =>
      simp only [Bool.false_eq_true, if_false, true_and]
      constructor
      · intro h
        exact ⟨(Except.error.inj h).symm, hnone⟩
      · rintro ⟨rfl, -⟩
        rfl
  · obtain ⟨u, hu⟩ := not_forall.mp hnone
    obtain ⟨rfl, hfilter⟩ := Classical.not_imp.mp hu
    rw [Bool.not_eq_false] at hfilter
    rw [logFilter_of_isFilter hfilter]
    constructor
    · intro h
      exact nomatch h
    · rintro ⟨-, -, h⟩
      exact absurd h hnone

/-- A log level that names a level is never refused. -/
theorem exists_logFilter_of_levelName {s : Settings} {n : String} (hn : n ∈ levelNames)
    (h : Text.sameName s.logLevel.toList n.toList = true) (surrounding : Option String) :
    ∃ t, s.logFilter surrounding = .ok t := by
  cases hfilter : s.logFilter surrounding with
  | ok t => exact ⟨t, rfl⟩
  | error e =>
    obtain ⟨-, hlevel, -⟩ := logFilter_eq_error_iff.mp hfilter
    rw [isFilter_levelName hn h] at hlevel
    exact nomatch hlevel

end Settings

end Criteria
