/-
  Criteria/Renderer.lean
  ======================
  **Rendering for a store.**  A store is relational or a search engine; a
  renderer has a dialect for the one and a zone for the other, and renders each
  condition by itself.

  `Renderer` mirrors `Dispatcher` with its `render` and `render_tagged`.
-/
import Criteria.Evaluation
import Criteria.Fragment
import Criteria.Search.Rendering
import Criteria.Sql.Rendering

namespace Criteria

inductive Store where
  | relational
  | search
  deriving DecidableEq, Repr

namespace Store

def name : Store → String
  | relational => "relational"
  | search => "search"

def names : List (String × Store) :=
  [("relational", relational), ("sql", relational), ("mysql", relational),
   ("search", search), ("elasticsearch", search), ("es", search)]

def ofName? (s : String) : Option Store :=
  (names.find? fun n => Text.sameName n.1.toList (Text.trim s.toList)).map (·.2)

def ofName (s : String) : Except EvaluationError Store :=
  match ofName? s with
  | some t => .ok t
  | none => .error (.unknownStore s)

end Store

def Sql.Dialect.ofName (s : String) : Except EvaluationError Sql.Dialect :=
  match ofName? s with
  | some d => .ok d
  | none => .error (.unknownDialect s)

def Condition.toSql (d : Sql.Dialect) (c : Condition) : Fragment :=
  match Sql.clause? c with
  | some clause => .sql (clause.text d)
  | none => .unsupported

/-- The fragment of a condition for a search engine whose days are counted in a zone. -/
def Condition.toSearch (zone : Offset) (c : Condition) : Fragment :=
  match Search.query? zone c with
  | some q => .search q.toJson
  | none => .unsupported

structure Renderer where
  dialect : Sql.Dialect := .mysql
  zone : Offset := .utc
  deriving DecidableEq, Repr

namespace Renderer

def renderOne (r : Renderer) (store : Store) (c : Condition) : Fragment :=
  match store with
  | .relational => c.toSql r.dialect
  | .search => c.toSearch r.zone

/-- The fragments of a list of conditions, each rendered by itself. -/
def render (r : Renderer) (store : Store) (cs : List Condition) : Fragments :=
  ⟨cs.map (r.renderOne store)⟩

def renderNamed (r : Renderer) (name : String) (cs : List Condition) :
    Except EvaluationError Fragments :=
  (Store.ofName name).map fun store => r.render store cs

end Renderer

end Criteria
