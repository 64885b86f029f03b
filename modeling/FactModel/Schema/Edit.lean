import FactModel.Schema.Basic

/-!
# Damaging a schema

Edits that take parts out of a schema or redirect a foreign key, without regard to what depends on
them.  Whatever works on a schema has to cope with the result.
-/

namespace FactModel

/-- An edit of a schema; tables and columns are given by their names. -/
inductive Edit where
  | dropTable (table : String)
  | clearForeignKeys (table : String)
  | dropColumn (table column : String)
  | clearPrimaryKey (table : String)
  | retargetKey (table : String) (position : Nat) (refTable : String)
  deriving DecidableEq, Repr

namespace Schema

/-- Changes the table of a given name. -/
def changeTable (s : Schema) (name : String) (change : Table → Table) : Schema :=
  { s with tables := s.tables.map fun t => if t.name = name then change t else t }

/-- Applies an edit. -/
def edit (s : Schema) : Edit → Schema
  | .dropTable table => { s with tables := s.tables.filter (·.name != table) }
  | .clearForeignKeys table => s.changeTable table fun t => { t with foreignKeys := [] }
  | .dropColumn table column =>
    s.changeTable table fun t => { t with columns := t.columns.filter (·.name != column) }
  | .clearPrimaryKey table => s.changeTable table fun t => { t with primaryKey := [] }
  | .retargetKey table position refTable =>
    s.changeTable table fun t =>
      { t with foreignKeys := t.foreignKeys.modify position fun k => { k with refTable } }

end Schema

end FactModel
