/-
  Criteria/Proofs/Search/RelativeDays.lean
  ========================================
  **Relative days mean the same in a search engine as in memory.**  Memory shifts
  the date that a wall clock in the zone shows and compares it with the date in the
  field.  A search document shifts the instant itself, by whole days of seconds,
  and rounds it down to the start of a day in the zone that it names.  Both count
  days of one wall clock, as the zone of an engine survives being written: an
  instant lies between two such starts exactly if the wall clock shows that day.
-/
import Criteria.Engine
import Criteria.Proofs.Answers
import Criteria.Proofs.Calendar.Instant
import Criteria.Proofs.Calendar.Zone
import Criteria.Proofs.RelativeDays
import Criteria.Proofs.Search.Selection
import Criteria.Proofs.Text.Blank

namespace Criteria

/-! ### Date arithmetic -/

namespace Search

/-- A number of days with its sign. -/
def signedDays? : List Char → Option Int
  | '+' :: number => (Text.readNat number).map fun n : Nat => (n : Int)
  | '-' :: number => (Text.readNat number).map fun n : Nat => -(n : Int)
  | _ => none

/-- The days that date arithmetic moves the current instant by, before it rounds to a day. -/
def shiftDays? : List Char → Option Int
  | 'n' :: 'o' :: 'w' :: rest =>
    if rest = ['/', 'd'] then some 0
    else match Text.cutAt 'd' rest with
      | some (number, ['/', 'd']) => signedDays? number
      | _ => none
  | _ => none

/-- The bounds of a range: the start of a day for each, in the zone of the document. -/
def dateBounds? (now : Instant) (range : Members) : Option (Instant × Instant) :=
  match range.lookup "gte", range.lookup "lt", range.lookup "time_zone" with
  | some (.string first), some (.string last), some (.string zone) => do
    let east ← Calendar.secondsEast? zone.toList
    let lower ← shiftDays? first.toList
    let upper ← shiftDays? last.toList
    return ((now.plusDays lower).startOfDay east, (now.plusDays upper).startOfDay east)
  | _, _, _ => none

/-- Whether an instant, given in universal time, lies in a range of days: the lower bound is
    included, the upper one not. -/
def inDays (now : Instant) (range : Members) : Value → Bool
  | .time t =>
    match dateBounds? now range with
    | some (lower, upper) =>
      !(t.instantIn .utc).before lower && (t.instantIn .utc).before upper
    | none => false
  | _ => false

/-! ### The days of a rendered range -/

theorem signedDays?_signedDigits (days : Int) :
    signedDays? (Text.signedDigits days) = some days := by
  have hreader : signedDays? (Text.signedDigits days) = Text.readInt (Text.signedDigits days) := by
    unfold Text.signedDigits
    split <;> rfl
  rw [hreader, Text.readInt_signedDigits]

/-- **A bound says by how many days it shifts.** -/
theorem shiftDays?_dayText (days : Int) : shiftDays? (dayText days).toList = some days := by
  unfold dayText
  by_cases h : days = 0
  · rw [if_pos h, h]
    rfl
  · have hmark : 'd' ∉ Text.signedDigits days := by
      intro hmem
      exact Text.ne_of_mem_signedDigits hmem 'd' (by decide) rfl
    have hcut := Text.cutAt_append hmark ['/', 'd']
    have hrest : Text.signedDigits days ++ ['d', '/', 'd'] ≠ ['/', 'd'] := by
      unfold Text.signedDigits
      split <;> simp
    have htext : ("now" ++ String.ofList (Text.signedDigits days) ++ "d/d").toList =
        'n' :: 'o' :: 'w' :: (Text.signedDigits days ++ ['d', '/', 'd']) := by
      simp [String.toList_append, String.toList_ofList]
    rw [if_neg h, htext, shiftDays?, if_neg hrest, hcut]
    exact signedDays?_signedDigits days

theorem dateBounds?_dayMembers (now : Instant) (days : Int) {zone : Offset}
    (hzone : zone.seconds % 60 = 0) :
    dateBounds? now (dayMembers days zone) =
      some ((now.plusDays days).startOfDay zone.seconds,
        (now.plusDays (days + 1)).startOfDay zone.seconds) := by
  have hfirst : (dayMembers days zone).lookup "gte" = some (.string (dayText days)) := rfl
  have hlast : (dayMembers days zone).lookup "lt" = some (.string (dayText (days + 1))) := rfl
  have heast : (dayMembers days zone).lookup "time_zone" =
      some (.string (String.ofList zone.text)) := rfl
  simp only [dateBounds?, hfirst, hlast, heast, String.toList_ofList,
    Offset.secondsEast?_text hzone, shiftDays?_dayText, Option.bind_eq_bind, Option.bind_some,
    Option.pure_def]

/-- **The range of a day holds the instants at which a wall clock in its zone shows that day.** -/
theorem inDays_dayMembers_iff (now : Instant) (days : Int) {zone : Offset}
    (hzone : zone.seconds % 60 = 0) (t : DateTime) :
    inDays now (dayMembers days zone) (.time t) = true ↔
      (t.instantIn .utc).dayAt zone.seconds = now.dayAt zone.seconds + days := by
  simp only [inDays, dateBounds?_dayMembers now days hzone, Bool.and_eq_true, Bool.not_eq_true',
    ← Bool.not_eq_true, Instant.before_startOfDay_iff, Instant.dayAt_plusDays]
  omega

/-! ### Documents -/

/-- The text of the zone that a search document counts its days in. -/
def zoneText? : Json → Option String
  | .object [("range", .object [(_, .object members)])] =>
    match members.lookup "time_zone" with
    | some (.string zone) => some zone
    | _ => none
  | _ => none

theorem zoneText?_onDay (field : String) (days : Int) (zone : Offset) :
    zoneText? (Query.onDay field days zone).toJson = some (String.ofList zone.text) := by
  have hlookup : (dayMembers days zone).lookup "time_zone" =
      some (.string (String.ofList zone.text)) := rfl
  simp only [Query.toJson, Json.keyed, zoneText?, hlookup]

theorem selects_onDay (x : Indexed) (field : String) (days : Int) (zone : Offset) :
    selects x (Query.onDay field days zone).toJson =
      (x.values field).any (x.inRange (dayMembers days zone)) := by
  simp [Query.toJson, Json.keyed, selects, fieldHolds]

end Search

theorem Condition.toSearch_relativeDay {c : Condition} {days : Int64} (htype : c.valueType = .time)
    (hf : c.operator.family = .relativeDay days) (zone : Offset) :
    c.toSearch zone = .search (Search.Query.onDay c.identifier days.toInt zone).toJson := by
  refine Search.toSearch_of_queryOf? (isSupported_relativeDay htype hf)
    (normalized_relativeDay hf) ?_
  simp only [Search.queryOf?, nullary, hf]

/-! ### Engines -/

namespace Blueprint

theorem build_eq_error_iff {b : Blueprint} {err : EngineError} :
    b.build = .error err ↔ Offset.read? b.settings.timeZone.toList = none ∧
      err = .settings (.invalidTimeZone b.settings.timeZone) := by
  unfold build Settings.zone
  cases Offset.read? b.settings.timeZone.toList with
  | none => simp [Except.mapError, Except.map, eq_comm]
  | some z => simp [Except.mapError, Except.map]

theorem build_eq_ok_iff {b : Blueprint} {e : Engine} :
    b.build = .ok e ↔ ∃ z, Offset.read? b.settings.timeZone.toList = some z ∧
      e = ⟨b.settings, z, b.clock, ⟨b.settings.dialect, z⟩⟩ := by
  unfold build Settings.zone
  cases Offset.read? b.settings.timeZone.toList with
  | none => simp [Except.mapError, Except.map]
  | some z => simp [Except.mapError, Except.map, eq_comm]

end Blueprint

namespace Engine

/-- **An engine renders in the zone that it evaluates in**, and the zone is whole minutes. -/
theorem zone_of_build {b : Blueprint} {e : Engine} (h : b.build = .ok e) :
    e.renderer.zone = e.zone ∧ e.zone.seconds % 60 = 0 := by
  obtain ⟨z, hz, rfl⟩ := Blueprint.build_eq_ok_iff.mp h
  exact ⟨rfl, Offset.read?_mod hz⟩

theorem evaluateRecord_singleton (e : Engine) (current : DateTime) (r : Record) (c : Condition) :
    e.evaluateRecord current r [c] = (c.evaluate (e.moment current) r).mapError .evaluation := by
  simp only [evaluateRecord, Criteria.evaluateRecord, List.map_cons, List.map_nil, evaluateAll]
  rcases c.evaluate (e.moment current) r with _ | _ | _ <;> rfl

/-- **An engine selects the days that it counts in memory.**  Take a field with the date-time that
    a wall clock in the engine's zone shows at some instant, and a record of a search engine with
    that instant, in universal time.  The document of a relative day selects this record exactly if
    memory says yes to the other, at any instant of the clock that has a date in the zone. -/
theorem relativeDay_selects_iff_evaluate {b : Blueprint} {e : Engine} (hbuild : b.build = .ok e)
    (current : DateTime) (hnow : (e.clock.read current).InCalendar e.zone) {c : Condition}
    (htype : c.valueType = .time) (hop : c.operator.isRelativeDate = true)
    {r : Record} {t u : DateTime}
    (hfield : r.field? c.identifier = some (.time t))
    (hinstant : u.instantIn .utc = t.instantIn e.zone) {x : Search.Indexed}
    (hvalues : x.values c.identifier = [.time u])
    (hrange : x.inRange = Search.inDays ((e.clock.read current).instantIn .utc)) :
    ∃ doc, (e.renderFor .search [c]).get? 1 = some (.search doc) ∧
      (Search.selects x doc = true ↔ e.evaluateRecord current r [c] = .ok true) := by
  obtain ⟨hzone, hminutes⟩ := zone_of_build hbuild
  obtain ⟨days, hf⟩ := Operator.isRelativeDate_iff.mp hop
  have hdoc := Condition.toSearch_relativeDay htype hf e.renderer.zone
  rw [hzone] at hdoc
  refine ⟨(Search.Query.onDay c.identifier days.toInt e.zone).toJson, ?_, ?_⟩
  · rw [renderFor, Renderer.render, Fragments.get?]
    simp only [List.map_cons, List.getElem?_cons_zero, Renderer.renderOne, hzone, hdoc]
  · have hselects : Search.selects x
        (Search.Query.onDay c.identifier days.toInt e.zone).toJson = true ↔
          t.date.dayNumber =
            ((e.clock.read current).instantIn .utc).dayAt e.zone.seconds + days.toInt := by
      rw [Search.selects_onDay, hvalues, hrange, List.any_cons, List.any_nil, Bool.or_false,
        Search.inDays_dayMembers_iff _ _ hminutes, hinstant, DateTime.dayAt_instantIn]
    have hnow' : (e.moment current).now.InCalendar (e.moment current).zone := hnow
    rw [hselects, evaluateRecord_singleton, Condition.evaluate_relativeDay htype hf hnow' hfield,
      ← DateTime.shiftedToday_eq_some_iff hnow]
    simp [Except.mapError, moment]

/-- The last moment of a day before 1970 in a zone west of universal time, where the next day of
    universal time has long begun; the clock stands at the last second of the day after. -/
theorem relativeDay_selects_iff_evaluate_west :
    ∃ e doc, Blueprint.build { settings := { timeZone := " -0530" } } = .ok e ∧
      (e.renderFor .search [.nullary "at" .time .yesterday]).get? 1 = some (.search doc) ∧
      (Search.selects ⟨fun _ =>
          [.time ⟨⟨1969, 12, 31, by decide⟩, ⟨5, 29, 59, 999999999, by decide⟩⟩],
        Search.inDays (DateTime.instantIn
          ⟨⟨1970, 1, 1, by decide⟩, ⟨5, 29, 59, 0, by decide⟩⟩ .utc)⟩ doc = true ↔
        e.evaluateRecord ⟨⟨1970, 1, 1, by decide⟩, ⟨5, 29, 59, 0, by decide⟩⟩
          (.plain [("at",
            .time ⟨⟨1969, 12, 30, by decide⟩, ⟨23, 59, 59, 999999999, by decide⟩⟩)])
          [.nullary "at" .time .yesterday] = .ok true) := by
  have hbuild : Blueprint.build { settings := { timeZone := " -0530" } } =
      .ok { settings := { timeZone := " -0530" }, zone := ⟨-19800, by decide⟩, clock := .running,
            renderer := { zone := ⟨-19800, by decide⟩ } } := rfl
  have hfield : Record.field? (.plain [("at",
      .time ⟨⟨1969, 12, 30, by decide⟩, ⟨23, 59, 59, 999999999, by decide⟩⟩)]) "at" =
      some (.time ⟨⟨1969, 12, 30, by decide⟩, ⟨23, 59, 59, 999999999, by decide⟩⟩) := rfl
  have hinstant : DateTime.instantIn
      ⟨⟨1969, 12, 31, by decide⟩, ⟨5, 29, 59, 999999999, by decide⟩⟩ .utc =
      DateTime.instantIn ⟨⟨1969, 12, 30, by decide⟩, ⟨23, 59, 59, 999999999, by decide⟩⟩
        ⟨-19800, by decide⟩ := by decide
  obtain ⟨doc, hdoc, hselects⟩ := relativeDay_selects_iff_evaluate hbuild
    ⟨⟨1970, 1, 1, by decide⟩, ⟨5, 29, 59, 0, by decide⟩⟩ (by decide)
    (c := .nullary "at" .time .yesterday) rfl rfl hfield hinstant
    (x := ⟨fun _ => [.time ⟨⟨1969, 12, 31, by decide⟩, ⟨5, 29, 59, 999999999, by decide⟩⟩],
      Search.inDays (DateTime.instantIn
        ⟨⟨1970, 1, 1, by decide⟩, ⟨5, 29, 59, 0, by decide⟩⟩ .utc)⟩) rfl rfl
  exact ⟨_, doc, hbuild, hdoc, hselects⟩

end Engine

end Criteria
