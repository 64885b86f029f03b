import FactModel.Graph.Lookup
import FactModel.Schema.Basic

/-!
# From graph to schema

Every entity gets a table with its explicit attributes.  A relationship to one becomes a foreign
key column of the source, typed like the primary key of the target; a relationship to many becomes
one of the target.  Where names clash the mapping gives way and leaves a note.
-/

namespace FactModel

/-- Where the mapping had to give way. -/
inductive MappingNote where
  /-- A table name was taken and got a number. -/
  | renamed (wanted name entity : String)
  /-- A column that exists already also serves as foreign key. -/
  | keyOnColumn (table column target : String)
  /-- The column name of an attribute was taken; the attribute is not stored. -/
  | columnTaken (table column : String)
  deriving DecidableEq, Repr

/-- The wording of a note. -/
def MappingNote.message : MappingNote → String
  | .renamed wanted name entity =>
    s!"Table name '{wanted}' is taken; using '{name}' for '{entity}'"
  | .keyOnColumn table column target =>
    s!"{table}: column '{column}' already exists; " ++
      s!"reusing it as the foreign key to '{target}'"
  | .columnTaken table column => s!"{table}: duplicate column '{column}' skipped"

namespace Mapping

/-- What the names of all tables begin with. -/
def tableStart : String := "physical_"

/-- The plain table name of an entity. -/
def tableName (entity : String) : String :=
  tableStart ++ Name.identifier entity

/-! ## Table names -/

/-- A name with a number behind it. -/
def numbered (name : String) (n : Nat) : String :=
  s!"{name}_{n}"

/-- The name itself when it is free, or else with the least number from two on that makes it
free.  One of the first numbers, one more than names are used, must do. -/
def freeName (used : List String) (name : String) : String :=
  if used.contains name then
    let n := ((List.range (used.length + 1)).map (· + 2)).find? fun n =>
      !used.contains (numbered name n)
    numbered name (n.getD 2)
  else name

/-- The table names of entities in order, all different from those used and from each other. -/
def namesFrom (used : List String) : List Entity → List String
  | [] => []
  | e :: rest =>
    let name := freeName used (tableName e.name)
    name :: namesFrom (name :: used) rest

/-- The table names of a graph, in order of entities. -/
def tableNames (g : Graph) : List String :=
  namesFrom [] g.entities

/-- The notes on tables that got a number. -/
def nameNotes (g : Graph) : List MappingNote :=
  (g.entities.zip (tableNames g)).filterMap fun (e, name) =>
    if name = tableName e.name then none else some (.renamed (tableName e.name) name e.name)

/-- The table name of the entity at a position. -/
def nameOf (g : Graph) (entity : Nat) : String :=
  ((tableNames g)[entity]?).getD ""

/-! ## Columns -/

/-- The name of the key column for an entity that has no identifier, and of columns referring to
any entity. -/
def keyName (entity : String) : String :=
  Name.identifier entity ++ "_id"

/-- The primary key column of an entity: its identifier, or else a column made for it. -/
def primaryKey (g : Graph) (entity : Nat) : Column :=
  match g.identifier? entity with
  | some a =>
    { name := Name.identifier a.name, type := a.type, nullable := false, role := .primaryKey,
      references := none, attr := some a.index }
  | none =>
    { name := keyName (g.entityName entity), type := .string, nullable := false,
      role := .primaryKey, references := none, attr := none }

/-- A column that refers to the primary key of an entity. -/
def keyColumn (g : Graph) (target : Nat) (name : String) (nullable : Bool) (attr : Option Nat) :
    Column :=
  let pk := primaryKey g target
  { name, type := pk.type, nullable, role := .foreignKey,
    references := some (nameOf g target ++ "." ++ pk.name), attr }

/-- A foreign key to the primary key of an entity. -/
def foreignKey (g : Graph) (target relationship : Nat) (column : String) : ForeignKey :=
  { column, refTable := nameOf g target, refColumn := (primaryKey g target).name, relationship,
    sharedBy := [] }

/-- A table under construction and the notes about it. -/
structure Layout where
  columns : List Column
  keys : List ForeignKey
  notes : List MappingNote

/-- Whether a column name is taken. -/
def Layout.taken (l : Layout) (name : String) : Bool :=
  l.columns.any (·.name == name)

/-- The relationship to one that a reference attribute stands for. -/
def relationshipTo (g : Graph) (entity target : Nat) : Nat :=
  (((g.outgoing entity).find? fun r => r.target == target && r.derivable).map (·.index)).getD 0

/-- Lays out an attribute.  The identifier is the primary key, a reference becomes a foreign key on
a column of its own or on one that is there already, and any other attribute becomes a column
unless the name is taken. -/
def Layout.add (g : Graph) (entity : Nat) (l : Layout) (a : Attribute) : Layout :=
  if a.identifying then { l with columns := l.columns ++ [primaryKey g entity] }
  else
    match a.references with
    | some target =>
      let name := keyName (g.entityName target)
      let l :=
        if l.taken name then
          { l with notes := l.notes ++
              [.keyOnColumn (nameOf g entity) name (g.entityName target)] }
        else
          { l with columns := l.columns ++ [keyColumn g target name a.nullable (some a.index)] }
      { l with keys := l.keys ++ [foreignKey g target (relationshipTo g entity target) name] }
    | none =>
      let name := Name.identifier a.name
      if l.taken name then
        { l with notes := l.notes ++ [.columnTaken (nameOf g entity) name] }
      else
        { l with columns := l.columns ++
            [{ name, type := a.type, nullable := a.nullable, role := .plain, references := none,
               attr := some a.index }] }

/-- Lays out a relationship to one that no reference attribute stands for. -/
def Layout.addShadowed (g : Graph) (l : Layout) (r : Relationship) : Layout :=
  if !r.derivable || l.keys.any (·.backs r.index) then l
  else
    let name := Name.identifier (g.entityName r.target) ++ "_ref_id"
    { l with
      columns := l.columns ++ [keyColumn g r.target name true none]
      keys := l.keys ++ [foreignKey g r.target r.index name] }

/-- The layout of an entity's own attributes and relationships to one. -/
def layoutOf (g : Graph) (entity : Nat) : Layout :=
  let pk := primaryKey g entity
  let start : Layout := { columns := if pk.attr.isNone then [pk] else [], keys := [], notes := [] }
  (g.outgoing entity).foldl (Layout.addShadowed g)
    ((g.attributesOf entity).foldl (Layout.add g entity) start)

/-- The table of an entity before relationships to many are laid out. -/
def tableOf (g : Graph) (entity : Nat) : Table :=
  let l := layoutOf g entity
  { name := nameOf g entity, entity, columns := l.columns,
    primaryKey := [(primaryKey g entity).name], foreignKeys := l.keys }

/-! ## Relationships to many -/

/-- The column of the target that carries the key of the source. -/
def reverseName (g : Graph) (r : Relationship) : String :=
  let name := keyName (g.entityName r.source)
  if r.source = r.target then "parent_" ++ name else name

/-- Marks the first key that satisfies a condition as shared by a relationship. -/
def share (isShared : ForeignKey → Bool) (relationship : Nat) : List ForeignKey → List ForeignKey
  | [] => []
  | k :: rest =>
    if isShared k then { k with sharedBy := k.sharedBy ++ [relationship] } :: rest
    else k :: share isShared relationship rest

/-- Lays out a relationship to many in the table of its target.  When the target already has that
key of the source, the key is shared; otherwise it gets one, on a new column unless there is one of
that name. -/
def addReverse (g : Graph) (r : Relationship) (t : Table) : Table :=
  let name := reverseName g r
  let isShared := fun k : ForeignKey => k.column == name && k.refTable == nameOf g r.source
  if t.foreignKeys.any isShared then
    { t with foreignKeys := share isShared r.index t.foreignKeys }
  else
    let columns :=
      if t.hasColumn name then t.columns
      else t.columns ++ [keyColumn g r.source name true none]
    { t with columns, foreignKeys := t.foreignKeys ++ [foreignKey g r.source r.index name] }

/-- The relationships to many of a graph. -/
def toMany (g : Graph) : List Relationship :=
  g.relationships.filter (·.cardinality == .oneToMany)

/-- All tables of a graph. -/
def tables (g : Graph) : List Table :=
  (toMany g).foldl (fun ts r => ts.modify r.target (addReverse g r))
    (g.entities.map fun e => tableOf g e.index)

end Mapping

/-- The schema of a graph. -/
def Schema.ofGraph (g : Graph) : Schema :=
  { tables := Mapping.tables g }

/-- Makes sure that whatever the mapping looks up is there: the attributes of entities, the
relationships that references stand for, and the ends of relationships. -/
def Mapping.check (g : Graph) : Except Missing Unit := do
  g.entities.forM fun e => do
    g.checkAttributes e
    (g.attributesOf e.index).forM g.checkReference
  g.relationships.forM fun r => do
    g.checkEntity r.source
    g.checkEntity r.target

/-- The schema of a graph whose positions may be out of range. -/
def Schema.map (g : Graph) : Except Missing Schema := do
  Mapping.check g
  return Schema.ofGraph g

/-- All notes on the mapping of a graph: on table names first, then table by table. -/
def Mapping.notes (g : Graph) : List MappingNote :=
  Mapping.nameNotes g ++ g.entities.flatMap fun e => (Mapping.layoutOf g e.index).notes

end FactModel
