import FactModel.Graph.Basic

/-!
# Relational schemas

The tables that store the facts of a graph: one table per entity, with its columns, its primary key
and its foreign keys.
-/

namespace FactModel

/-- What a column is for. -/
inductive Role where
  | primaryKey
  | foreignKey
  | plain
  deriving DecidableEq, Repr

/-- A column of a table. -/
structure Column where
  name : String
  type : SemanticType
  nullable : Bool
  role : Role
  /-- The table and column that a foreign key column was made for, joined by a point. -/
  references : Option String
  /-- Position of the attribute that the column stores; none when no attribute asked for it. -/
  attr : Option Nat
  deriving DecidableEq, Repr

/-- A foreign key of a table. -/
structure ForeignKey where
  column : String
  refTable : String
  refColumn : String
  /-- Position of the relationship that the key was made for. -/
  relationship : Nat
  /-- Positions of relationships that state the same link from the other end. -/
  sharedBy : List Nat
  deriving DecidableEq, Repr

/-- Whether a key stands for a relationship. -/
def ForeignKey.backs (k : ForeignKey) (relationship : Nat) : Bool :=
  relationship == k.relationship || k.sharedBy.contains relationship

/-- A table. -/
structure Table where
  name : String
  /-- Position of the entity whose rows the table holds. -/
  entity : Nat
  columns : List Column
  primaryKey : List String
  foreignKeys : List ForeignKey
  deriving DecidableEq, Repr

namespace Table

/-- The column of a given name. -/
def column? (t : Table) (name : String) : Option Column :=
  t.columns.find? (·.name == name)

/-- The column that stores an attribute. -/
def columnFor? (t : Table) (attr : Nat) : Option Column :=
  t.columns.find? (·.attr == some attr)

/-- Whether a column of that name exists. -/
def hasColumn (t : Table) (name : String) : Bool :=
  t.columns.any (·.name == name)

end Table

/-- A schema: its tables in order of their entities. -/
structure Schema where
  tables : List Table
  deriving DecidableEq, Repr

namespace Schema

/-- The table of a given name. -/
def table? (s : Schema) (name : String) : Option Table :=
  s.tables.find? (·.name == name)

/-- The table that holds the rows of an entity. -/
def tableOf (s : Schema) (entity : Nat) : Except Missing Table :=
  match s.tables.find? (·.entity == entity) with
  | some t => .ok t
  | none => .error (.table entity)

/-- The foreign key that stands for a relationship. -/
def keyFor? (s : Schema) (relationship : Nat) : Option ForeignKey :=
  (s.tables.flatMap (·.foreignKeys)).find? (·.backs relationship)

/-- The table that holds the foreign key for a relationship. -/
def holderOf? (s : Schema) (relationship : Nat) : Option Table :=
  s.tables.find? fun t => t.foreignKeys.any (·.backs relationship)

/-- The number of foreign keys. -/
def keyCount (s : Schema) : Nat :=
  (s.tables.flatMap (·.foreignKeys)).length

/-- A relationship has a key exactly when some table holds it. -/
theorem keyFor?_isSome (s : Schema) (relationship : Nat) :
    (s.keyFor? relationship).isSome = (s.holderOf? relationship).isSome := by
  rw [Bool.eq_iff_iff]
  simp only [keyFor?, holderOf?, List.find?_isSome, List.mem_flatMap, List.any_eq_true]
  constructor
  · rintro ⟨k, ⟨t, inSchema, inTable⟩, backs⟩
    exact ⟨t, inSchema, k, inTable, backs⟩
  · rintro ⟨t, inSchema, k, inTable, backs⟩
    exact ⟨k, ⟨t, inSchema, inTable⟩, backs⟩

/-! ### The order of tables

Tables are created so that whatever a table refers to exists before it.  Of the tables that could
come next the one of the first entity does. -/

/-- The tables of the schema that a table refers to, itself left out. -/
def dependencies (s : Schema) (t : Table) : List String :=
  (t.foreignKeys.map (·.refTable)).filter fun name =>
    name != t.name && s.tables.any (·.name == name)

/-- Whether all that a table depends on has been placed. -/
def isReady (s : Schema) (placed : List Table) (t : Table) : Bool :=
  (s.dependencies t).all fun name => placed.any (·.name == name)

/-- Whether one table comes before another when both could come next. -/
def precedes (t u : Table) : Bool :=
  t.entity < u.entity || (t.entity == u.entity && decide (t.name < u.name))

/-- The first of some tables. -/
def first? : List Table → Option Table
  | [] => none
  | t :: rest =>
    match first? rest with
    | none => some t
    | some u => if precedes u t then some u else some t

/-- Places tables one by one, as long as one is ready.  The bound is on how many are placed. -/
def place (s : Schema) : (bound : Nat) → (placed waiting : List Table) → List Table × List Table
  | 0, placed, waiting => (placed, waiting)
  | bound + 1, placed, waiting =>
    match first? (waiting.filter (s.isReady placed)) with
    | none => (placed, waiting)
    | some t => place s bound (placed ++ [t]) (waiting.filter (·.name != t.name))

/-- The tables in order of creation, or the sorted names of those that never become ready because
they refer to each other in a circle or depend on tables that do. -/
def creationOrder (s : Schema) : Except (List String) (List Table) :=
  let (placed, waiting) := s.place s.tables.length [] s.tables
  if waiting.isEmpty then .ok placed
  else .error ((waiting.map (·.name)).mergeSort fun a b => decide (a ≤ b))

end Schema

end FactModel
