/-
  Criteria/Settings/Yaml.lean
  ===========================
  **Settings as a YAML document.**  A mapping with a scalar for each setting,
  read as the text it stands as; unknown keys are passed over.

  `readYaml` mirrors `from_yaml_str`.
-/
import Criteria.Settings
import Criteria.Yaml.V11.Schema

namespace Criteria.Settings

open Yaml.V11 (Document Node)

def textMember? (d : Document) (key : String) (ms : List (List Char × Node)) :
    Option (Option String) :=
  match Yaml.V11.member? key ms with
  | none => none
  | some none => some none
  | some (some n) => (d.text? n).map fun cs => some (String.ofList cs)

def ofDocument? (d : Document) : Option Settings := do
  let ms ← d.members? d.root
  ofTexts? {
    store := ← textMember? d "backend" ms
    dialect := ← textMember? d "dialect" ms
    timeZone := ← textMember? d "time_zone" ms
    logLevel := ← textMember? d "log_level" ms }

/-- The settings that a YAML text writes; a text without a document leaves the defaults. -/
def ofYaml? (cs : List Char) : Option Settings :=
  match Document.read? cs with
  | none => none
  | some none => some {}
  | some (some d) => ofDocument? d

def readYaml (text : String) : Except SettingsError Settings :=
  match ofYaml? text.toList with
  | some s => s.validated
  | none => .error .invalidYaml

end Criteria.Settings
