import FactModel.View.Layout

/-!
# Schema issues

What the mapping to tables and views could not store or show as declared.
-/

namespace FactModel

/-- An issue of a schema or a view. -/
inductive Issue where
  /-- A table has not the plain name of its entity. -/
  | renamed (entity wanted table : String)
  /-- An attribute has no column. -/
  | notStored (entity attr table : String)
  /-- A foreign key sits on the column of a declared attribute. -/
  | keyOnAttribute (table column refTable : String)
  /-- Several foreign keys sit on one column. -/
  | columnShared (table column : String) (relationships : List Nat)
  /-- A view leaves something out. -/
  | ofView (name : String) (note : ViewNote)
  deriving DecidableEq, Repr

namespace Issue

/-- The layer an issue belongs to. -/
def stage : Issue → String
  | .ofView .. => "LogicalViews"
  | _ => "PhysicalSchema"

/-- The code of an issue. -/
def code : Issue → String
  | .renamed .. => "TABLE_NAME_SUFFIXED"
  | .notStored .. => "ATTRIBUTE_NOT_STORED"
  | .keyOnAttribute .. => "FK_ON_ATTRIBUTE_COLUMN"
  | .columnShared .. => "FK_COLUMN_SHARED"
  | .ofView _ (.skippedJoin _) => "JOIN_SKIPPED"
  | .ofView _ (.unsourced _) => "DERIVED_COLUMN_UNSOURCED"
  | .ofView _ (.clash ..) => "DERIVED_COLUMN_CLASH"

/-- The table or view, and perhaps its column, that an issue is about. -/
def location : Issue → String
  | .renamed _ _ table | .notStored _ _ table => table
  | .keyOnAttribute table column _ | .columnShared table column _ => s!"{table}.{column}"
  | .ofView name note => if note.place = "" then name else s!"{name}.{note.place}"

/-- The wording of an issue. -/
def message : Issue → String
  | .renamed entity wanted table =>
    s!"'{entity}' maps to '{wanted}', which another entity already uses; stored as '{table}'"
  | .notStored entity attr _ =>
    s!"'{entity}.{attr}' has no column; its column name is taken by another attribute"
  | .keyOnAttribute table column refTable =>
    s!"{table}: foreign key to '{refTable}' reuses the declared attribute column '{column}'"
  | .columnShared table column relationships =>
    s!"{table}: column '{column}' backs {relationships.length} unrelated relationships"
  | .ofView name note => s!"{name}: {note.message}"

/-- The named values of an issue. -/
def details : Issue → List (String × Detail)
  | .renamed entity _ table => [("entity", .text entity), ("table", .text table)]
  | .notStored entity attr _ => [("entity", .text entity), ("attribute", .text attr)]
  | .keyOnAttribute table column refTable =>
    [("table", .text table), ("column", .text column), ("ref_table", .text refTable)]
  | .columnShared table column relationships =>
    [("table", .text table), ("column", .text column), ("relationships", .numbers relationships)]
  | .ofView name note => note.details name

/-- The issue of a table that could not have its plain name. -/
def ofName (e : Entity) (t : Table) : List Issue :=
  let wanted := Mapping.tableName e.name
  if t.name = wanted then [] else [.renamed e.name wanted t.name]

/-- The issues of attributes without a column. -/
def ofAttributes (g : Graph) (e : Entity) (t : Table) : List Issue :=
  ((g.attributesOf e.index).filter fun a =>
      !(a.type == .reference || a.identifying) && (t.columnFor? a.index).isNone).map fun a =>
    .notStored e.name a.name t.name

/-- The issues of foreign keys on the columns of declared attributes. -/
def ofKeys (t : Table) : List Issue :=
  (t.foreignKeys.filter fun k => (t.column? k.column).any (·.role == .plain)).map fun k =>
    .keyOnAttribute t.name k.column k.refTable

/-- The issues of columns with several foreign keys. -/
def ofSharing (t : Table) : List Issue :=
  ((t.foreignKeys.map (·.column)).eraseDups).filterMap fun column =>
    let relationships :=
      (t.foreignKeys.filter (·.column == column)).map (·.relationship)
    if 1 < relationships.length then some (.columnShared t.name column relationships) else none

/-- All issues of an entity's table. -/
def ofTable (g : Graph) (s : Schema) (e : Entity) : Except Missing (List Issue) := do
  let t ← s.tableOf e.index
  return ofName e t ++ ofAttributes g e t ++ ofKeys t ++ ofSharing t

/-- All issues of a schema and its views. -/
def all (g : Graph) (s : Schema) : Except Missing (List Issue) := do
  let views ← View.all g s
  let tables ← g.entities.mapM (ofTable g s)
  return tables.flatten ++ views.flatMap fun v => v.notes.map (.ofView v.name)

end Issue

end FactModel
