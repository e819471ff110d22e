/-
  Criteria/Search/Query.lean
  ==========================
  **Queries of a search engine.**  A query is a test of one field or a
  combination of queries; its document is JSON with keys in ascending order.
  Days are counted by the engine itself, from its own clock, in the zone that
  the document names.

  `rangeMembers` mirrors `range`, `dayText` mirrors `date_math`.
-/
import Criteria.Calendar.Offset
import Criteria.Json
import Criteria.Text.Digits
import Criteria.Value

namespace Criteria.Search

/-- A bound of a range, itself included or not. -/
inductive Bound where
  | gt
  | gte
  | lt
  | lte
  deriving DecidableEq, Repr

def Bound.key : Bound → String
  | gt => "gt"
  | gte => "gte"
  | lt => "lt"
  | lte => "lte"

inductive Query where
  /-- The field is this value. -/
  | term (field : String) (value : Value)
  /-- The field starts with this text. -/
  | leading (field : String) (text : String)
  /-- The field as a whole matches a pattern: `*` any text, `?` any character, `\` the next one. -/
  | wildcard (field : String) (pattern : List Char)
  /-- The field is there. -/
  | present (field : String)
  /-- The field is on one side of a value. -/
  | range (field : String) (bound : Bound) (value : Value)
  /-- The field lies on the day shifted from today, in a zone. -/
  | onDay (field : String) (days : Int) (zone : Offset)
  /-- At least one of the queries holds. -/
  | anyOf (queries : List Query)
  /-- None of the queries holds. -/
  | noneOf (queries : List Query)

/-! ### Documents -/

/-- A value as JSON: date-times as their literal text. -/
def valueJson : Value → Json
  | .null => .null
  | .number x => .float x
  | .text s => .string s
  | .time t => .string (String.ofList t.text)

def timeLayout : String := "yyyy-MM-dd HH:mm:ss"

def fractionLayout : String := "yyyy-MM-dd HH:mm:ss.SSSSSSSSS"

/-- The body of a range: a bound, and for a date-time the layout that its text has. -/
def rangeMembers (bound : Bound) : Value → Members
  | .time t =>
    if t.time.nano ≠ 0 then
      [("format", .string fractionLayout), (bound.key, .string (String.ofList t.textNano))]
    else [("format", .string timeLayout), (bound.key, .string (String.ofList t.text))]
  | v => [(bound.key, valueJson v)]

/-- The start of the day shifted from today, in the engine's arithmetic. -/
def dayText (days : Int) : String :=
  if days = 0 then "now/d" else "now" ++ String.ofList (Text.signedDigits days) ++ "d/d"

def dayMembers (days : Int) (zone : Offset) : Members :=
  [("gte", .string (dayText days)), ("lt", .string (dayText (days + 1))),
   ("time_zone", .string (String.ofList zone.text))]

def leaf (test field : String) (value : Json) : Json :=
  .keyed test (.keyed field (.keyed "value" value))

mutual

def Query.toJson : Query → Json
  | .term field v => leaf "term" field (valueJson v)
  | .leading field s => leaf "prefix" field (.string s)
  | .wildcard field p => leaf "wildcard" field (.string (String.ofList p))
  | .present field => .keyed "exists" (.keyed "field" (.string field))
  | .range field bound v => .keyed "range" (.keyed field (.object (rangeMembers bound v)))
  | .onDay field days zone => .keyed "range" (.keyed field (.object (dayMembers days zone)))
  | .anyOf qs =>
    .keyed "bool" (.object [("minimum_should_match", .int 1), ("should", .array (documents qs))])
  | .noneOf qs => .keyed "bool" (.keyed "must_not" (.array (documents qs)))

def documents : List Query → List Json
  | [] => []
  | q :: qs => q.toJson :: documents qs

end

end Criteria.Search
