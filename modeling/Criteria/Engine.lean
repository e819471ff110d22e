/-
  Criteria/Engine.lean
  ====================
  **Engines.**  An engine evaluates conditions in memory and renders them for
  stores, all with one zone.  It is built from settings and a clock; the parts
  may be set one after the other, and the settings as a whole replace what was
  set of them before.

  `Blueprint.build` mirrors the builder's `build`, `Engine.whereClause?` mirrors
  `where_clause`.
-/
import Criteria.Settings

namespace Criteria

inductive EngineError where
  | settings (e : SettingsError)
  | evaluation (e : EvaluationError)
  | condition (e : ConditionError)
  deriving DecidableEq, Repr

def EngineError.message : EngineError → String
  | settings e => "Configuration error: " ++ e.message
  | evaluation e => "Runtime error: " ++ e.message
  | condition e => "Core error: " ++ e.message

inductive Clock where
  /-- From the surroundings, at each evaluation. -/
  | running
  /-- One instant for ever. -/
  | frozen (now : DateTime)
  deriving DecidableEq, Repr

/-- The instant of a clock, given what the surroundings say. -/
def Clock.read (current : DateTime) : Clock → DateTime
  | running => current
  | frozen now => now

/-! ### Building -/

structure Blueprint where
  settings : Settings := {}
  clock : Clock := .running
  deriving DecidableEq, Repr

namespace Blueprint

def withSettings (b : Blueprint) (s : Settings) : Blueprint := { b with settings := s }

def withStore (b : Blueprint) (s : Store) : Blueprint :=
  { b with settings := { b.settings with store := s } }

def withDialect (b : Blueprint) (d : Sql.Dialect) : Blueprint :=
  { b with settings := { b.settings with dialect := d } }

/-- The zone is kept as its text. -/
def withTimeZone (b : Blueprint) (z : Offset) : Blueprint :=
  { b with settings := { b.settings with timeZone := String.ofList z.text } }

def withClock (b : Blueprint) (c : Clock) : Blueprint := { b with clock := c }

end Blueprint

structure Engine where
  settings : Settings
  /-- The zone of evaluation. -/
  zone : Offset
  clock : Clock
  renderer : Renderer
  deriving DecidableEq, Repr

/-- The engine of a blueprint, if its zone can be read. -/
def Blueprint.build (b : Blueprint) : Except EngineError Engine :=
  (b.settings.zone.mapError .settings).map fun zone =>
    { settings := b.settings
      zone
      clock := b.clock
      renderer := { dialect := b.settings.dialect, zone } }

namespace Engine

/-! ### Use -/

def moment (e : Engine) (current : DateTime) : Moment := ⟨e.clock.read current, e.zone⟩

def evaluate (e : Engine) (current : DateTime) (cs : List (Condition × Record)) :
    Except EngineError Bool :=
  (evaluateAll (e.moment current) cs).mapError .evaluation

def evaluateRecord (e : Engine) (current : DateTime) (r : Record) (cs : List Condition) :
    Except EngineError Bool :=
  (Criteria.evaluateRecord (e.moment current) r cs).mapError .evaluation

def render (e : Engine) (cs : List Condition) : Fragments := e.renderer.render e.settings.store cs

def renderFor (e : Engine) (store : Store) (cs : List Condition) : Fragments :=
  e.renderer.render store cs

def renderNamed (e : Engine) (name : String) (cs : List Condition) : Except EngineError Fragments :=
  (e.renderer.renderNamed name cs).mapError .evaluation

/-- The relational clauses joined by `AND`, if there are any. -/
def whereClause? (e : Engine) (cs : List Condition) : Option String :=
  (e.renderer.render .relational cs).conjunction?

end Engine

end Criteria
