import FactModel.Artifact.Blocks
import FactModel.Artifact.Failure
import FactModel.Schema.Basic
import FactModel.View.Layout

/-!
# Statements that create tables and views

One statement per table, in an order in which whatever a table refers to exists before it, and one
statement per view.
-/

namespace FactModel

/-! ## Tables -/

/-- The line of a column. -/
def Column.render (d : Dialect) (c : Column) : Except MissingType String := do
  let type ← d.typeName c.type
  return s!"    {d.quote c.name} {type}" ++ if c.nullable then "" else " NOT NULL"

/-- The line of a foreign key. -/
def ForeignKey.render (d : Dialect) (k : ForeignKey) : String :=
  s!"    FOREIGN KEY ({d.quote k.column}) REFERENCES {d.quote k.refTable} " ++
    s!"({d.quote k.refColumn})"

namespace Table

/-- The line of the primary key, when there is one. -/
def renderKey (d : Dialect) (t : Table) : List String :=
  if t.primaryKey.isEmpty then []
  else ["    PRIMARY KEY (" ++ String.intercalate ", " (t.primaryKey.map d.quote) ++ ")"]

/-- The statement that creates a table. -/
def render (d : Dialect) (t : Table) : Except MissingType String := do
  let columns ← t.columns.mapM (·.render d)
  let lines := columns ++ t.renderKey d ++ t.foreignKeys.map (·.render d)
  return s!"CREATE TABLE {d.quote t.name} (\n" ++ String.intercalate ",\n" lines ++ "\n);"

end Table

/-- The statements that create all tables. -/
def Artifact.tables (s : Schema) (d : Dialect) : Except ArtifactFailure String := do
  let ordered ← s.creationOrder.mapError .circular
  let statements ← (ordered.mapM (Table.render d)).mapError .missingType
  return blocks statements

/-! ## Views -/

/-- The line of a view column; a name of its own is given when it is not the source's. -/
def ViewColumn.render (d : Dialect) (c : ViewColumn) : String :=
  s!"    {c.tableAlias}.{d.quote c.sourceColumn}" ++
    if c.sourceColumn = c.name then "" else s!" AS {d.quote c.name}"

/-- The line of a join. -/
def Join.render (d : Dialect) (j : Join) : String :=
  s!"LEFT JOIN {d.quote j.table} {j.tableAlias} " ++
    s!"ON {j.tableAlias}.{d.quote j.refColumn} = {j.parent}.{d.quote j.column}"

/-- The statement that creates a view. -/
def View.render (d : Dialect) (v : View) : String :=
  Artifact.unlines
    ([s!"{d.createView} {d.quote v.name} AS", "SELECT",
      String.intercalate ",\n" (v.columns.map (·.render d)),
      s!"FROM {d.quote v.baseTable} {View.baseAlias}"] ++ v.joins.map (·.render d)) ++ ";"

/-- The statements that create the views of all entities. -/
def Artifact.views (g : Graph) (s : Schema) (d : Dialect) : Except ArtifactFailure String := do
  let views ← (View.all g s).mapError .lookup
  return blocks (views.map (·.render d))

end FactModel
