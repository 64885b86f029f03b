import FactModel.Query.Intent
import FactModel.Sql.Dialect
import FactModel.Sql.Literal
import FactModel.View.Basic

/-!
# Queries

A query over one view: what it selects and a condition on its rows.  Intents are turned into
queries by the columns of the view that their names mean.
-/

namespace FactModel

/-- What a query selects. -/
inductive Selection where
  | all
  | column (name : String)
  /-- The number of rows. -/
  | count (as : String)
  | least (column as : String)
  | greatest (column as : String)
  deriving DecidableEq, Repr

/-- A column equals a literal. -/
structure Equality where
  column : String
  value : Literal
  deriving DecidableEq, Repr

/-- A query over a view. -/
structure Query where
  selection : Selection
  source : String
  condition : Option Equality
  deriving DecidableEq, Repr

namespace Selection

/-- The view columns a selection refers to. -/
def columns : Selection → List String
  | .all | .count _ => []
  | .column name => [name]
  | .least name _ | .greatest name _ => [name]

/-- The text of a selection. -/
def render (d : Dialect) : Selection → String
  | .all => "*"
  | .column name => d.quote name
  | .count as => s!"COUNT(*) AS {d.quote as}"
  | .least name as => s!"MIN({d.quote name}) AS {d.quote as}"
  | .greatest name as => s!"MAX({d.quote name}) AS {d.quote as}"

end Selection

namespace Query

/-- The view columns a query refers to, in order of appearance. -/
def columns (q : Query) : List String :=
  q.selection.columns ++ (q.condition.map (·.column)).toList

/-- The text of a condition. -/
def renderCondition (d : Dialect) : Option Equality → String
  | none => ""
  | some e => s!" WHERE {d.quote e.column} = {e.value.render}"

/-- The text of a query. -/
def render (d : Dialect) (q : Query) : String :=
  s!"SELECT {q.selection.render d} FROM {d.quote q.source}{renderCondition d q.condition};"

end Query

/-- Why an intent has no query, or a query is refused. -/
inductive Ungrounded where
  | unknownEntity (name : String)
  /-- An entity has no attribute of that name. -/
  | unknownAttribute (entity attr : String)
  /-- A view has no column for a name. -/
  | unknownColumn (entity attr view : String)
  /-- An extreme is asked of an entity without dates. -/
  | noDate (entity : String) (shape : Shape)
  /-- An extreme is asked of no attribute. -/
  | noAttribute (entity : String) (shape : Shape)
  /-- A row is looked up without an identifier. -/
  | noKeyValue (entity : String)
  /-- Rows are filtered without an attribute and a value. -/
  | noFilter (entity : String)
  /-- A query does not follow the grammar. -/
  | unparsable
  /-- A query refers to a column that its view does not have. -/
  | strangeColumn (column view : String)
  /-- A query refers to another table or view. -/
  | strangeTable (table view : String)
  deriving DecidableEq, Repr

/-- The wording of a refusal. -/
def Ungrounded.message : Ungrounded → String
  | .unknownEntity name => s!"Unknown entity '{name}'"
  | .unknownAttribute entity attr => s!"'{entity}' has no attribute '{attr}'"
  | .unknownColumn entity attr view => s!"'{entity}' has no attribute '{attr}' (view {view})"
  | .noDate entity shape => s!"'{entity}' has no Date attribute to take the {shape.name} of"
  | .noAttribute entity shape => s!"{shape.name} needs an attribute of '{entity}'"
  | .noKeyValue entity => s!"lookup on '{entity}' needs a key value"
  | .noFilter entity => s!"filter on '{entity}' needs a filter attribute and value"
  | .unparsable => "Planned SQL does not parse"
  | .strangeColumn column view => s!"Column '{column}' is not in view '{view}'"
  | .strangeTable table view => s!"Table '{table}' is not the planned view '{view}'"

end FactModel
