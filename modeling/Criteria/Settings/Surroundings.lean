/-
  Criteria/Settings/Surroundings.lean
  ===================================
  **Settings from files and variables.**  A settings file is found by its name,
  with or without its extension.  Variables whose names start with `FEVER_` say
  what is to count instead of the file.

  `load` and `loadFrom` mirror `load` and `load_from`.
-/
import Criteria.Directory
import Criteria.Environment.File
import Criteria.Settings.Format

namespace Criteria.Settings

open Text

/-- The directory that is looked into, and the variables that are set. -/
structure Surroundings where
  directory : Directory
  environment : Variables

namespace Surroundings

/-! ### Files -/

def formatOf? (path : List Char) : Option Format :=
  (Directory.extension? path).bind fun e => Format.extensions.lookup e

inductive Finding where
  | absent
  /-- A file of that name, but of no known format. -/
  | unknown
  | found (format : Format) (text : List Char)

/-- The settings file of a name: the file itself, or else one with an extension after the name. -/
def find (s : Surroundings) (name : List Char) : Finding :=
  match s.directory.file? name with
  | some text =>
    match formatOf? name with
    | some f => .found f text
    | none => .unknown
  | none =>
    let candidates := Format.extensions.filterMap fun e =>
      (s.directory.extended? name e.1).map fun text => Finding.found e.2 text
    candidates.head?.getD .absent

/-! ### Variables -/

/-- What the names of the variables for settings start with, in lower case. -/
def leader : List Char := "fever_".toList

def variableSource (vs : Variables) : Source :=
  vs.filterMap fun v =>
    let name := v.1.map lower
    if leader.isPrefixOf name then some (name.drop leader.length, some v.2) else none

/-- A settings file with the variables after it. -/
def settingsOf (s : Surroundings) (format : Format) (text : List Char) :
    Except SettingsError Settings :=
  match format.read? text with
  | some source => Source.settings (source ++ variableSource s.environment)
  | none => .error .unreadable

end Surroundings

open Surroundings

/-! ### Loading -/

def loadFrom (s : Surroundings) (name : List Char) : Except SettingsError Settings :=
  match s.find name with
  | .found format text => s.settingsOf format text
  | _ => .error .unreadable

/-- The settings of the usual file, which need not be there.  Variables may also come from a file of
    variables. -/
def load (s : Surroundings) : Except SettingsError Settings :=
  let entries := (s.directory.file? ".env".toList).getD []
  let s := { s with environment := s.environment.withFile entries }
  match s.find "config/fever".toList with
  | .found format text => s.settingsOf format text
  | _ => Source.settings (variableSource s.environment)

end Criteria.Settings
