import FactModel.Diagnostic
import FactModel.Name

/-!
# Views

A view shows an entity with all its attributes: the columns of its table and, through joins along
the paths of derivation, the columns of derived attributes.
-/

namespace FactModel

/-- A column of a view and where its values come from. -/
structure ViewColumn where
  name : String
  /-- The display name of the attribute shown. -/
  attr : String
  tableAlias : String
  sourceColumn : String
  type : SemanticType
  derived : Bool
  path : List Nat
  deriving DecidableEq, Repr

/-- A join of a table to those before it: `tableAlias.refColumn = parent.column`. -/
structure Join where
  tableAlias : String
  table : String
  /-- Positions of the relationships that lead to the table. -/
  path : List Nat
  parent : String
  column : String
  refColumn : String
  deriving DecidableEq, Repr

/-- What a view leaves out. -/
inductive ViewNote where
  /-- No foreign key stands for a relationship. -/
  | skippedJoin (relationship : Nat)
  /-- A derived attribute has no column that it could be read from. -/
  | unsourced (attr : String)
  /-- The column name of a derived attribute is taken. -/
  | clash (attr column : String)
  deriving DecidableEq, Repr

namespace ViewNote

/-- The code a note is reported under. -/
def code : ViewNote → DiagnosticCode
  | .skippedJoin _ => .skippedJoin
  | .unsourced _ => .unsourcedDerivedColumn
  | .clash .. => .derivedColumnClash

/-- The wording of a note. -/
def message : ViewNote → String
  | .skippedJoin relationship =>
    s!"no foreign key backs relationship {relationship}; join skipped"
  | .unsourced attr => s!"derived attribute '{attr}' has no physical source column"
  | .clash attr column =>
    s!"derived attribute '{attr}' would be column '{column}', which is taken"

/-- The named values of a note in a given view. -/
def details (view : String) : ViewNote → List (String × Detail)
  | .skippedJoin relationship => [("view", .text view), ("relationship", .number relationship)]
  | .unsourced attr => [("view", .text view), ("attribute", .text attr)]
  | .clash attr column =>
    [("view", .text view), ("attribute", .text attr), ("column", .text column)]

/-- The column or else the attribute that a note is about. -/
def place : ViewNote → String
  | .skippedJoin _ => ""
  | .unsourced attr => attr
  | .clash attr column => if column = "" then attr else column

end ViewNote

/-- The view of an entity. -/
structure View where
  name : String
  entity : Nat
  entityName : String
  baseTable : String
  keyColumn : Option String
  columns : List ViewColumn
  joins : List Join
  /-- The derived attributes left out. -/
  hidden : List String
  notes : List ViewNote
  deriving DecidableEq, Repr

namespace View

/-- The alias of the table that a view starts from. -/
def baseAlias : String := "t0"

/-- The column that a name means: one of that name, or one that shows the attribute of that name,
or one whose name is the identifier of the name.  An attribute left out of the view means none. -/
def column? (v : View) (name : String) : Option ViewColumn :=
  match v.columns.find? (·.name == name) with
  | some c => some c
  | none =>
    match v.columns.find? (Name.key ·.attr == Name.key name) with
    | some c => some c
    | none =>
      if v.hidden.any (Name.key · == Name.key name) then none
      else v.columns.find? (·.name == Name.identifier name)

/-- The first column that holds values of a type. -/
def firstOfType? (v : View) (type : SemanticType) : Option ViewColumn :=
  v.columns.find? (·.type == type)

end View

end FactModel
