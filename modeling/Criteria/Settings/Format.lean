/-
  Criteria/Settings/Format.lean
  =============================
  **Formats of settings files.**  A file is TOML, JSON or YAML by the extension
  of its name.  Its keys make a source: numbers and truth values stand for
  themselves as texts.
-/
import Criteria.Json.Document
import Criteria.Settings.Source
import Criteria.Toml.Document
import Criteria.Yaml.V12.Value

namespace Criteria.Settings

open Text

/-! ### Texts of scalars -/

def boolText (b : Bool) : List Char := (if b then "true" else "false").toList

def floatText (x : Binary64) : List Char := x.text .plain

/-- The text of a JSON scalar.  Whole numbers that are too great are decimals. -/
def jsonText? : Json → Option (List Char)
  | .string s => some s.toList
  | .bool b => some (boolText b)
  | .int i => some (if fitsSigned 64 i then intDigits i else floatText (.ofInt i))
  | .float x => some (floatText x)
  | _ => none

def tomlText? : Toml → Option (List Char)
  | .string cs | .moment cs => some cs
  | .int i => some (intDigits i)
  | .float x => some (floatText x)
  | .bool b => some (boolText b)
  | _ => none

/-! ### YAML values -/

open Yaml

def yamlText? : V12.Value → Option (List Char)
  | .bool b => some (boolText b)
  | .int i => some (intDigits i)
  | .real cs => (Binary64.read? cs).map floatText
  | .text cs => some cs
  | _ => none

mutual

def isReadable : V12.Value → Bool
  | .real cs => (Binary64.read? cs).isSome
  | .list items => areReadable items
  | .table pairs => pairsReadable pairs
  | _ => true

def areReadable : List V12.Value → Bool
  | [] => true
  | v :: vs => isReadable v && areReadable vs

def pairsReadable : List (V12.Value × V12.Value) → Bool
  | [] => true
  | (_, v) :: ps => isReadable v && pairsReadable ps

end

/-! ### Files -/

inductive Format where
  | toml
  | json
  | yaml
  deriving DecidableEq, Repr

namespace Format

def extensions : List (List Char × Format) :=
  [("toml".toList, toml), ("json".toList, json), ("yaml".toList, yaml), ("yml".toList, yaml)]

/-- The key and the text of a pair; a key that is no text names no setting. -/
def yamlEntry? : V12.Value × V12.Value → Option (List Char × Option (List Char))
  | (.text k, v) => some (k, yamlText? v)
  | _ => none

/-- The source that a YAML file is; a file without a document says nothing. -/
def readYaml? (cs : List Char) : Option Source :=
  match V12.Value.read? cs with
  | some none => some []
  | some (some (.table pairs)) =>
    if pairsReadable pairs then some (pairs.filterMap yamlEntry?) else none
  | _ => none

/-- The source that a text in a format is.  The mark of its encoding is no part of a TOML text. -/
def read? (cs : List Char) : Format → Option Source
  | toml => (Toml.Entries.read? (dropMark cs)).map fun es => es.map fun e => (e.1, tomlText? e.2)
  | json =>
    match Json.read? cs with
    | some (.object ms) => some (ms.map fun m => (m.1.toList, jsonText? m.2))
    | _ => none
  | yaml => readYaml? cs

end Format

end Criteria.Settings
