/-
  Criteria/Proofs/Engine/Assembly.lean
  ====================================
  **Engines put together step by step.**  A blueprint starts from the defaults and
  takes any number of steps, each of which sets some of its parts and leaves the
  others.  A part is therefore what the last step that sets it made it, and the
  zone is the only one that can keep an engine from being built: it is kept as a
  text, which settings may bring from anywhere.  The text that an offset leaves
  can always be read, so only settings whose text counts in the end can fail.

  An engine that is built has read its zone once.  It evaluates in that zone,
  renders in it, and prints it in search documents.
-/
import Criteria.Proofs.Search.RelativeDays
import Criteria.Settings.Surroundings
import Criteria.Settings.Yaml

namespace Criteria

/-! ### Settings that a reader accepts -/

namespace Settings

/-- Settings that come from a YAML text, from a settings file of a name, or from the usual one. -/
inductive IsAccepted (s : Settings) : Prop where
  | yaml (text : String) (h : readYaml text = .ok s)
  | named (surroundings : Surroundings) (name : List Char) (h : loadFrom surroundings name = .ok s)
  | usual (surroundings : Surroundings) (h : load surroundings = .ok s)

theorem read?_of_validated {s t : Settings} (h : s.validated = .ok t) :
    ∃ z, Offset.read? t.timeZone.toList = some z := by
  unfold validated zone at h
  cases hread : Offset.read? s.timeZone.toList with
  | none => simp [hread, Except.map] at h
  | some z =>
    simp only [hread, Except.map, Except.ok.injEq] at h
    exact ⟨z, h ▸ hread⟩

theorem read?_of_source {source : Source} {s : Settings} (h : source.settings = .ok s) :
    ∃ z, Offset.read? s.timeZone.toList = some z := by
  unfold Source.settings at h
  split at h
  · exact read?_of_validated h
  · exact nomatch h

theorem read?_of_settingsOf {surroundings : Surroundings} {format : Format} {text : List Char}
    {s : Settings} (h : surroundings.settingsOf format text = .ok s) :
    ∃ z, Offset.read? s.timeZone.toList = some z := by
  unfold Surroundings.settingsOf at h
  split at h
  · exact read?_of_source h
  · exact nomatch h

/-- **No reader accepts settings whose zone cannot be read.** -/
theorem IsAccepted.read? {s : Settings} (h : s.IsAccepted) :
    ∃ z, Offset.read? s.timeZone.toList = some z := by
  cases h with
  | yaml text h =>
    unfold readYaml at h
    split at h
    · exact read?_of_validated h
    · exact nomatch h
  | named surroundings name h =>
    unfold loadFrom at h
    split at h
    · exact read?_of_settingsOf h
    · exact nomatch h
  | usual surroundings h =>
    unfold load at h
    simp only at h
    split at h
    · exact read?_of_settingsOf h
    · exact read?_of_source h

end Settings

/-! ### Steps -/

namespace Blueprint

/-- One step of putting a blueprint together. -/
inductive Step where
  | settings (s : Settings)
  | store (s : Store)
  | dialect (d : Sql.Dialect)
  | timeZone (z : Offset)
  | clock (c : Clock)
  deriving DecidableEq, Repr

namespace Step

def apply (b : Blueprint) : Step → Blueprint
  | settings s => b.withSettings s
  | store s => b.withStore s
  | dialect d => b.withDialect d
  | timeZone z => b.withTimeZone z
  | clock c => b.withClock c

/-! What a step sets of each part: the settings as a whole set all but the clock. -/

def store? : Step → Option Store
  | settings s => some s.store
  | store s => some s
  | _ => none

def dialect? : Step → Option Sql.Dialect
  | settings s => some s.dialect
  | dialect d => some d
  | _ => none

def zoneText? : Step → Option String
  | settings s => some s.timeZone
  | timeZone z => some (String.ofList z.text)
  | _ => none

def logLevel? : Step → Option String
  | settings s => some s.logLevel
  | _ => none

def clock? : Step → Option Clock
  | clock c => some c
  | _ => none

/-- **The text of a zone can be read**, unless it comes with settings. -/
theorem settings_or_read?_of_zoneText? {t : Step} {text : String} (h : t.zoneText? = some text) :
    (∃ s, t = .settings s ∧ s.timeZone = text) ∨ ∃ z, Offset.read? text.toList = some z := by
  cases t with
  | settings s => exact .inl ⟨s, rfl, Option.some.inj h⟩
  | timeZone z =>
    refine .inr ⟨z.wholeMinutes, ?_⟩
    rw [← Option.some.inj h, String.toList_ofList, Offset.read?_text]
  | store s | dialect d | clock c => exact nomatch h

theorem zoneText?_eq_none_iff {steps : List Step} :
    (∀ t ∈ steps, t.zoneText? = none) ↔
      (∀ s, settings s ∉ steps) ∧ ∀ z, timeZone z ∉ steps := by
  constructor
  · intro h
    constructor
    · intro s hs
      exact absurd (h _ hs) (by simp [zoneText?])
    · intro z hz
      exact absurd (h _ hz) (by simp [zoneText?])
  · rintro ⟨hsettings, hzone⟩ t ht
    cases t with
    | settings s => exact absurd ht (hsettings s)
    | timeZone z => exact absurd ht (hzone z)
    | store s | dialect d | clock c => rfl

end Step

/-- The blueprint that steps make, one after the other, of the defaults. -/
def assemble (steps : List Step) : Blueprint := steps.foldl Step.apply {}

/-- What the last of the steps that set a part makes it. -/
def lastSet {α : Type} (set : Step → Option α) (steps : List Step) : Option α :=
  steps.reverse.findSome? set

section Parts

variable {α : Type} {set : Step → Option α}

theorem lastSet_append (first second : List Step) :
    lastSet set (first ++ second) = (lastSet set second).or (lastSet set first) := by
  rw [lastSet, List.reverse_append, List.findSome?_append, lastSet, lastSet]

theorem lastSet_cons (t : Step) (steps : List Step) :
    lastSet set (t :: steps) = (lastSet set steps).or (set t) := by
  rw [lastSet, List.reverse_cons, List.findSome?_append, List.findSome?_singleton, lastSet]

/-- **The last step that sets a part** stands before none that sets it. -/
theorem lastSet_eq_some_iff {steps : List Step} {a : α} :
    lastSet set steps = some a ↔
      ∃ before t after, steps = before ++ t :: after ∧ set t = some a ∧
        ∀ u ∈ after, set u = none := by
  rw [lastSet, List.findSome?_eq_some_iff]
  constructor
  · rintro ⟨after, t, before, hsteps, ht, hafter⟩
    refine ⟨before.reverse, t, after.reverse, ?_, ht, ?_⟩
    · rw [← List.reverse_reverse steps, hsteps]
      simp
    · intro u hu
      exact hafter u (List.mem_reverse.mp hu)
  · rintro ⟨before, t, after, rfl, ht, hafter⟩
    refine ⟨after.reverse, t, before.reverse, by simp, ht, ?_⟩
    intro u hu
    exact hafter u (List.mem_reverse.mp hu)

/-- **A part is what the last step made it**, if every step either sets it or leaves it. -/
theorem part_foldl (part : Blueprint → α)
    (hstep : ∀ b t, part (Step.apply b t) = (set t).getD (part b)) (steps : List Step)
    (b : Blueprint) : part (steps.foldl Step.apply b) = (lastSet set steps).getD (part b) := by
  induction steps generalizing b with
  | nil => rfl
  | cons t steps ih =>
    rw [List.foldl_cons, ih, hstep, lastSet_cons]
    cases lastSet set steps <;> rfl

end Parts

/-- **A blueprint is what the last steps made each of its parts**, or else the default. -/
theorem assemble_eq (steps : List Step) :
    assemble steps =
      { settings := {
          store := (lastSet Step.store? steps).getD .relational
          dialect := (lastSet Step.dialect? steps).getD .mysql
          timeZone := (lastSet Step.zoneText? steps).getD "UTC"
          logLevel := (lastSet Step.logLevel? steps).getD "info" }
        clock := (lastSet Step.clock? steps).getD .running } := by
  have hstore : (assemble steps).settings.store = (lastSet Step.store? steps).getD .relational :=
    part_foldl (fun b => b.settings.store) (by intro b t; cases t <;> rfl) steps {}
  have hdialect : (assemble steps).settings.dialect = (lastSet Step.dialect? steps).getD .mysql :=
    part_foldl (fun b => b.settings.dialect) (by intro b t; cases t <;> rfl) steps {}
  have hzone : (assemble steps).settings.timeZone = (lastSet Step.zoneText? steps).getD "UTC" :=
    part_foldl (fun b => b.settings.timeZone) (by intro b t; cases t <;> rfl) steps {}
  have hlevel : (assemble steps).settings.logLevel = (lastSet Step.logLevel? steps).getD "info" :=
    part_foldl (fun b => b.settings.logLevel) (by intro b t; cases t <;> rfl) steps {}
  have hclock : (assemble steps).clock = (lastSet Step.clock? steps).getD .running :=
    part_foldl (fun b => b.clock) (by intro b t; cases t <;> rfl) steps {}
  rw [← hstore, ← hdialect, ← hzone, ← hlevel, ← hclock]

theorem timeZone_assemble (steps : List Step) :
    (assemble steps).settings.timeZone = (lastSet Step.zoneText? steps).getD "UTC" := by
  rw [assemble_eq]

/-! ### Building -/

/-- **The last text of a zone decides** whether the steps make an engine, and one that cannot be
    read comes from settings. -/
theorem build_assemble_eq_error_iff {steps : List Step} {err : EngineError} :
    (assemble steps).build = .error err ↔
      ∃ before s after, steps = before ++ .settings s :: after ∧
        (∀ t ∈ after, t.zoneText? = none) ∧ Offset.read? s.timeZone.toList = none ∧
        err = .settings (.invalidTimeZone s.timeZone) := by
  rw [build_eq_error_iff, timeZone_assemble]
  constructor
  · rintro ⟨hread, herr⟩
    cases hlast : lastSet Step.zoneText? steps with
    | none =>
      -- no step has set a zone: it is universal time, which can be read
      rw [hlast] at hread
      exact absurd hread (by decide)
    | some text =>
      simp only [hlast, Option.getD_some] at hread herr
      obtain ⟨before, t, after, hsteps, ht, hafter⟩ := lastSet_eq_some_iff.mp hlast
      rcases Step.settings_or_read?_of_zoneText? ht with ⟨s, rfl, rfl⟩ | ⟨z, hz⟩
      · exact ⟨before, s, after, hsteps, hafter, hread, herr⟩
      · rw [hz] at hread
        exact nomatch hread
  · rintro ⟨before, s, after, hsteps, hafter, hread, rfl⟩
    have hlast : lastSet Step.zoneText? steps = some s.timeZone :=
      lastSet_eq_some_iff.mpr ⟨before, .settings s, after, hsteps, rfl, hafter⟩
    rw [hlast]
    exact ⟨hread, rfl⟩

/-- **Settings that a reader has accepted make an engine**, whatever came before them and whatever
    parts are set after them. -/
theorem build_assemble_of_isAccepted {before after : List Step} {s : Settings}
    (hafter : ∀ t, .settings t ∉ after) (h : s.IsAccepted) :
    ∃ e, (assemble (before ++ .settings s :: after)).build = .ok e := by
  have hread : ∃ z, Offset.read?
      (assemble (before ++ .settings s :: after)).settings.timeZone.toList = some z := by
    rw [timeZone_assemble, lastSet_append, lastSet_cons]
    cases hlast : lastSet Step.zoneText? after with
    | none => exact h.read?
    | some text =>
      obtain ⟨before', t, after', hsplit, ht, -⟩ := lastSet_eq_some_iff.mp hlast
      rcases Step.settings_or_read?_of_zoneText? ht with ⟨u, rfl, -⟩ | hz
      · exact absurd (by simp [hsplit]) (hafter u)
      · exact hz
  obtain ⟨z, hz⟩ := hread
  exact ⟨_, build_eq_ok_iff.mpr ⟨z, hz, rfl⟩⟩

theorem build_assemble_timeZone (steps : List Step) (z : Offset) :
    ∃ e, (assemble (steps ++ [.timeZone z])).build = .ok e ∧ e.zone = z.wholeMinutes := by
  have hread : Offset.read? (assemble (steps ++ [.timeZone z])).settings.timeZone.toList =
      some z.wholeMinutes := by
    rw [timeZone_assemble, lastSet_append]
    simp only [lastSet, List.reverse_singleton, List.findSome?_singleton, Step.zoneText?,
      Option.some_or, Option.getD_some, String.toList_ofList, Offset.read?_text]
  exact ⟨_, build_eq_ok_iff.mpr ⟨z.wholeMinutes, hread, rfl⟩, rfl⟩

end Blueprint

/-! ### Engines whose parts agree -/

/-- The offset that a search document prints for its days, as far as it can be read. -/
def Search.printedZone? (document : Json) : Option Offset :=
  (zoneText? document).bind fun text => Offset.read? text.toList

theorem Search.printedZone?_onDay (field : String) (days : Int) (zone : Offset) :
    printedZone? (Query.onDay field days zone).toJson = some zone.wholeMinutes := by
  rw [printedZone?, zoneText?_onDay, Option.bind_some, String.toList_ofList, Offset.read?_text]

/-- An engine works in one zone and with what its settings say. -/
structure Engine.WorksIn (e : Engine) (z : Offset) : Prop where
  settings : e.settings.zone = .ok z
  evaluation : ∀ current cs,
    e.evaluate current cs = (evaluateAll ⟨e.clock.read current, z⟩ cs).mapError .evaluation
  recordEvaluation : ∀ current r cs, e.evaluateRecord current r cs =
    (Criteria.evaluateRecord ⟨e.clock.read current, z⟩ r cs).mapError .evaluation
  printed : ∀ c, c.valueType = .time → c.operator.isRelativeDate = true →
    ∃ doc, (e.renderFor .search [c]).get? 1 = some (.search doc) ∧
      Search.printedZone? doc = some z
  documents : ∀ cs, e.renderFor .search cs = ⟨cs.map (Condition.toSearch z)⟩
  clauses : ∀ cs, e.renderFor .relational cs = ⟨cs.map (Condition.toSql e.settings.dialect)⟩
  render : ∀ cs, e.render cs = e.renderFor e.settings.store cs

namespace Blueprint

/-- **An engine that is built works in the zone that its settings write.** -/
theorem worksIn_of_build {b : Blueprint} {e : Engine} (h : b.build = .ok e) :
    e.WorksIn e.zone := by
  obtain ⟨z, hz, rfl⟩ := build_eq_ok_iff.mp h
  constructor
  · simp only [Settings.zone, hz]
  · intro current cs
    rfl
  · intro current r cs
    rfl
  · intro c htype hop
    obtain ⟨days, hf⟩ := Operator.isRelativeDate_iff.mp hop
    have hdoc := Condition.toSearch_relativeDay htype hf z
    refine ⟨_, congrArg some hdoc, ?_⟩
    rw [Search.printedZone?_onDay, Offset.wholeMinutes_of_mod (Offset.read?_mod hz)]
  · intro cs
    rfl
  · intro cs
    rfl
  · intro cs
    rfl

/-- **Every engine agrees with itself.**  Steps fail to make an engine exactly if the last settings
    have a zone that cannot be read and no step after them sets another.  Settings that a reader
    has accepted never fail, nor does an offset, which counts by its whole minutes.  An engine that
    is made works in one zone throughout, and each of its parts is the one that the last step made
    it. -/
theorem build_assemble (steps : List Step) :
    (∀ err, (assemble steps).build = .error err ↔
      ∃ before s after, steps = before ++ .settings s :: after ∧
        (∀ t, .settings t ∉ after) ∧ (∀ z, .timeZone z ∉ after) ∧
        Offset.read? s.timeZone.toList = none ∧
        err = .settings (.invalidTimeZone s.timeZone)) ∧
    (∀ before s after, steps = before ++ .settings s :: after → (∀ t, .settings t ∉ after) →
      s.IsAccepted → ∃ e, (assemble steps).build = .ok e) ∧
    (∀ z, ∃ e, (assemble (steps ++ [.timeZone z])).build = .ok e ∧ e.zone = z.wholeMinutes) ∧
    ∀ e, (assemble steps).build = .ok e →
      e.WorksIn e.zone ∧
      e.settings.store = (lastSet Step.store? steps).getD .relational ∧
      e.settings.dialect = (lastSet Step.dialect? steps).getD .mysql ∧
      e.settings.timeZone = (lastSet Step.zoneText? steps).getD "UTC" ∧
      e.settings.logLevel = (lastSet Step.logLevel? steps).getD "info" ∧
      e.clock = (lastSet Step.clock? steps).getD .running := by
  refine ⟨?_, ?_, build_assemble_timeZone steps, ?_⟩
  · intro err
    simp only [build_assemble_eq_error_iff, Step.zoneText?_eq_none_iff, and_assoc]
  · rintro before s after rfl hafter hs
    exact build_assemble_of_isAccepted hafter hs
  · intro e he
    refine ⟨worksIn_of_build he, ?_⟩
    obtain ⟨z, -, rfl⟩ := build_eq_ok_iff.mp he
    rw [assemble_eq]
    exact ⟨rfl, rfl, rfl, rfl, rfl⟩

/-- Settings whose zone cannot be read do no harm before a zone that is set, odd seconds and all,
    but do after it. -/
theorem build_assemble_order :
    (∃ e, (assemble [.clock (.frozen ⟨⟨-1, 1, 1, by decide⟩, ⟨0, 0, 0, 0, by decide⟩⟩),
        .settings { dialect := .sqlite, timeZone := "Mars" }, .dialect .postgresql,
        .timeZone ⟨-19815, by decide⟩]).build = .ok e ∧
      e.WorksIn e.zone ∧ e.settings.dialect = .postgresql ∧ e.settings.timeZone = "-05:30" ∧
      e.clock = .frozen ⟨⟨-1, 1, 1, by decide⟩, ⟨0, 0, 0, 0, by decide⟩⟩) ∧
    (assemble [.timeZone ⟨-19815, by decide⟩, .settings { timeZone := "Mars" },
      .store .search]).build = .error (.settings (.invalidTimeZone "Mars")) := by
  constructor
  · obtain ⟨-, -, hzoned, -⟩ := build_assemble
      [.clock (.frozen ⟨⟨-1, 1, 1, by decide⟩, ⟨0, 0, 0, 0, by decide⟩⟩),
        .settings { dialect := .sqlite, timeZone := "Mars" }, .dialect .postgresql]
    obtain ⟨e, hbuild, -⟩ := hzoned ⟨-19815, by decide⟩
    obtain ⟨-, -, -, hparts⟩ := build_assemble
      [.clock (.frozen ⟨⟨-1, 1, 1, by decide⟩, ⟨0, 0, 0, 0, by decide⟩⟩),
        .settings { dialect := .sqlite, timeZone := "Mars" }, .dialect .postgresql,
        .timeZone ⟨-19815, by decide⟩]
    obtain ⟨hworks, -, hdialect, hzone, -, hclock⟩ := hparts e hbuild
    exact ⟨e, hbuild, hworks, hdialect, hzone, hclock⟩
  · refine ((build_assemble _).1 _).mpr
      ⟨[.timeZone ⟨-19815, by decide⟩], { timeZone := "Mars" },
        [.store .search], rfl, ?_, ?_, ?_, rfl⟩
    · simp
    · simp
    · decide

end Blueprint

end Criteria
