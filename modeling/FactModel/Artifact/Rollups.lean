import FactModel.Artifact.Blocks
import FactModel.Sql.Dialect
import FactModel.View.Layout

/-!
# Rollups

For every foreign key a view that shows, per row referred to, how many rows refer to it, the sums of
their numbers and the latest of their dates.
-/

namespace FactModel

/-- A value computed from the referring rows of one parent row. -/
inductive Summary where
  | total (column : String)
  | latest (column : String)
  deriving DecidableEq, Repr

namespace Summary

/-- The name of a summary in its view. -/
def name : Summary → String
  | .total column => s!"total_{column}"
  | .latest column => s!"latest_{column}"

/-- The line of a summary. -/
def render (d : Dialect) (s : Summary) : String :=
  match s with
  | .total column => s!"    SUM(c.{d.quote column}) AS {d.quote s.name}"
  | .latest column => s!"    MAX(c.{d.quote column}) AS {d.quote s.name}"

/-- The summary of a column, when it holds numbers or dates that a declared attribute stores. -/
def ofColumn? (c : Column) : Option Summary :=
  match c.role, c.type with
  | .plain, .number => some (.total c.name)
  | .plain, .date => some (.latest c.name)
  | _, _ => none

end Summary

/-- A view of what refers to each row of a table by a given foreign key. -/
structure Rollup where
  name : String
  parent : String
  /-- The column of the parent that is referred to. -/
  parentKey : String
  child : String
  /-- The column of the child that refers to the parent. -/
  childKey : String
  countName : String
  summaries : List Summary
  deriving DecidableEq, Repr

namespace Rollup

/-- The rollup for a foreign key of a table. -/
def ofKey (child : Table) (k : ForeignKey) : Rollup :=
  { name := s!"agg_{View.stem k.refTable}_{View.stem child.name}_by_{Name.identifier k.column}"
    parent := k.refTable
    parentKey := k.refColumn
    child := child.name
    childKey := k.column
    countName := View.stem child.name ++ "_count"
    summaries := child.columns.filterMap Summary.ofColumn? }

/-- The rollups of a schema, table by table. -/
def all (s : Schema) : List Rollup :=
  s.tables.flatMap fun t => t.foreignKeys.map (ofKey t)

/-- The names of the columns that a rollup shows. -/
def outputNames (r : Rollup) : List String :=
  [r.parentKey, r.countName] ++ r.summaries.map (·.name)

/-- The statement that creates a rollup. -/
def render (d : Dialect) (r : Rollup) : String :=
  Artifact.unlines
    [s!"{d.createView} {d.quote r.name} AS",
     "SELECT",
     String.intercalate ",\n"
       ([s!"    p.{d.quote r.parentKey}",
         s!"    COUNT(c.{d.quote r.childKey}) AS {d.quote r.countName}"] ++
         r.summaries.map (·.render d)),
     s!"FROM {d.quote r.parent} p",
     s!"LEFT JOIN {d.quote r.child} c ON c.{d.quote r.childKey} = p.{d.quote r.parentKey}",
     s!"GROUP BY p.{d.quote r.parentKey};"]

end Rollup

/-- The statements that create all rollups. -/
def Artifact.rollups (s : Schema) (d : Dialect) : String :=
  blocksIfAny ((Rollup.all s).map (·.render d))

end FactModel
