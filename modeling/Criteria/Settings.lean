/-
  Criteria/Settings.lean
  ======================
  **Settings.**  What an engine is configured with: the store and dialect it
  renders for, the zone in which it counts days, and how much it logs.  The
  zone is kept as the text it was given in, and need not be one that can be
  read; an engine is built only from settings whose zone can.

  `Settings` mirrors `EngineConfig` with its `zone` and `validate`.
-/
import Criteria.Json
import Criteria.Renderer

namespace Criteria

inductive SettingsError where
  /-- A document that is not YAML, or not one of settings. -/
  | invalidYaml
  /-- A source that is not there or not in its format. -/
  | unreadable
  /-- Settings that are there but not of their type. -/
  | malformed
  | invalidTimeZone (text : String)
  | invalidLogLevel (text : String)
  deriving DecidableEq, Repr

def SettingsError.message : SettingsError → String
  | invalidYaml => "Invalid YAML configuration"
  | unreadable => "Failed to read configuration"
  | malformed => "Failed to deserialize configuration"
  | invalidTimeZone text => "Invalid time zone '" ++ text ++ "'"
  | invalidLogLevel text => "Invalid log level '" ++ text ++ "'"

structure Settings where
  store : Store := .relational
  dialect : Sql.Dialect := .mysql
  timeZone : String := "UTC"
  logLevel : String := "info"
  deriving DecidableEq, Repr

namespace Settings

def zone (s : Settings) : Except SettingsError Offset :=
  match Offset.read? s.timeZone.toList with
  | some z => .ok z
  | none => .error (.invalidTimeZone s.timeZone)

/-- The settings themselves, if their zone can be read. -/
def validated (s : Settings) : Except SettingsError Settings := s.zone.map fun _ => s

def toJson (s : Settings) : Json :=
  .object [("backend", .string s.store.name), ("dialect", .string s.dialect.name),
    ("time_zone", .string s.timeZone), ("log_level", .string s.logLevel)]

/-! ### Settings from texts -/

structure Texts where
  store : Option String := none
  dialect : Option String := none
  timeZone : Option String := none
  logLevel : Option String := none

def meaning {α : Type} (default : α) (read : String → Option α) : Option String → Option α
  | none => some default
  | some s => read s

/-- The settings that texts write; what is absent keeps its default. -/
def ofTexts? (t : Texts) : Option Settings := do
  return {
    store := ← meaning .relational Store.ofName? t.store
    dialect := ← meaning .mysql Sql.Dialect.ofName? t.dialect
    timeZone := t.timeZone.getD "UTC"
    logLevel := t.logLevel.getD "info" }

end Settings

end Criteria
