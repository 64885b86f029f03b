import FactModel.Graph.Basic
import FactModel.Query.Build
import FactModel.Sql.Statement

/-!
# Planning queries

An intent is grounded in the graph, turned into a query over its entity's view, and the text of the
query is read back to make sure that it refers to nothing outside the view.
-/

namespace FactModel

/-- Why no query is planned. -/
inductive PlanError where
  | ungrounded (cause : Ungrounded)
  /-- The text of a query does not even consist of tokens. -/
  | tokens
  deriving DecidableEq, Repr

/-- A planned query. -/
structure Plan where
  intent : Intent
  view : String
  columns : List String
  query : Query
  deriving DecidableEq, Repr

/-- What a planner knows: the graph, the views of its entities, and the dialect to plan in. -/
structure Planner where
  graph : Graph
  views : List View
  dialect : Dialect

namespace Planner

/-- The entity of a given name and its view. -/
def entity? (p : Planner) (name : String) : Option (Entity × View) := do
  let index ← p.graph.indexOf? name
  let e ← p.graph.entities[index]?
  let v ← p.views.find? (·.entity == index)
  return (e, v)

/-- Makes sure that a name, if there is one, means a column of a view. -/
def checkAttribute (e : Entity) (v : View) : Option String → Except Ungrounded Unit
  | none => .ok ()
  | some name =>
    if (v.column? name).isSome then .ok () else .error (.unknownAttribute e.name name)

/-- The attribute asked for; an extreme without one is taken of the first date. -/
def defaultAttribute (e : Entity) (v : View) (i : Intent) : Except Ungrounded (Option String) :=
  if (i.shape = .min ∨ i.shape = .max) ∧ i.attr = none then
    match v.firstOfType? .date with
    | some c => .ok (some c.attr)
    | none => .error (.noDate e.name i.shape)
  else .ok i.attr

/-- Grounds an intent: its entity and attributes exist, and what it leaves open is filled in. -/
def ground (p : Planner) (i : Intent) : Except Ungrounded (Intent × View) :=
  match p.entity? i.entity with
  | none => .error (.unknownEntity i.entity)
  | some (e, v) => do
    checkAttribute e v i.attr
    checkAttribute e v i.filterAttr
    let attr ← defaultAttribute e v i
    return ({ i with entity := e.name, attr }, v)

/-- Makes sure that the text of a query refers to the columns of a view and to the view alone. -/
def verify (p : Planner) (v : View) (text : String) : Except PlanError Unit :=
  let grammar := Sql.Grammar.ofName p.dialect.grammar
  match Sql.tokens (.ofGrammar grammar) text with
  | none => .error .tokens
  | some ts =>
    match Sql.references grammar ts with
    | none => .error (.ungrounded .unparsable)
    | some found =>
      let columns := Sql.References.byDepth found.columns
      let tables := Sql.References.byDepth found.tables
      match columns.find? fun name => !v.columns.any (·.name == name) with
      | some name => .error (.ungrounded (.strangeColumn name v.name))
      | none =>
        match tables.find? (· != v.name) with
        | some name => .error (.ungrounded (.strangeTable name v.name))
        | none => .ok ()

/-- Plans the query for an intent. -/
def plan (p : Planner) (i : Intent) : Except PlanError Plan := do
  let (i, v) ← (p.ground i).mapError .ungrounded
  let planned ← (Planned.ofIntent i v).mapError .ungrounded
  p.verify v (planned.query.render p.dialect)
  return { intent := i, view := v.name, columns := planned.columns, query := planned.query }

end Planner

end FactModel
