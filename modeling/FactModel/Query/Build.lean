import FactModel.Query.Basic

/-!
# From intents to queries

The names in an intent are looked up among the columns of a view.  Along with the query goes the
list of the columns that the intent refers to.
-/

namespace FactModel

namespace View

/-- The column that a name in an intent means. -/
def resolve (v : View) (name : String) : Except Ungrounded ViewColumn :=
  match v.column? name with
  | some c => .ok c
  | none => .error (.unknownColumn v.entityName name v.name)

/-- The condition that a column has a value. -/
def equality (c : ViewColumn) (value : String) : Equality :=
  { column := c.name, value := Literal.ofValue c.type value }

/-- The filter that an intent asks for, when it names both an attribute and a value. -/
def filterOf (v : View) (i : Intent) : Except Ungrounded (Option Equality) :=
  match i.filterAttr, i.filterValue with
  | some attr, some value => do
    let c ← v.resolve attr
    return some (equality c value)
  | _, _ => .ok none

/-- The attribute asked for, or all of them. -/
def selectionOf (v : View) (i : Intent) : Except Ungrounded Selection :=
  match i.attr with
  | some attr => do
    let c ← v.resolve attr
    return .column c.name
  | none => .ok .all

/-- The condition that picks the row a look-up asks for. -/
def keyCondition (v : View) (i : Intent) : Except Ungrounded Equality :=
  match v.keyColumn, i.keyValue with
  | some key, some value => do
    let c ← v.resolve key
    return equality c value
  | _, _ => .error (.noKeyValue v.entityName)

/-- The column whose least or greatest value an intent asks for. -/
def extremeColumn (v : View) (i : Intent) : Except Ungrounded ViewColumn :=
  match i.attr with
  | some attr => v.resolve attr
  | none => .error (.noAttribute v.entityName i.shape)

end View

/-- A query and the view columns that its intent refers to. -/
structure Planned where
  query : Query
  columns : List String
  deriving DecidableEq, Repr

/-- The query for an intent over a view. -/
def Planned.ofIntent (i : Intent) (v : View) : Except Ungrounded Planned := do
  let filter ← v.filterOf i
  let filtered := (filter.map (·.column)).toList
  match i.shape with
  | .count =>
    let as := Name.identifier v.entityName ++ "_count"
    return { query := { selection := .count as, source := v.name, condition := filter },
             columns := filtered }
  | .min =>
    let c ← v.extremeColumn i
    let selection := Selection.least c.name s!"min_{c.name}"
    return { query := { selection, source := v.name, condition := filter },
             columns := c.name :: filtered }
  | .max =>
    let c ← v.extremeColumn i
    let selection := Selection.greatest c.name s!"max_{c.name}"
    return { query := { selection, source := v.name, condition := filter },
             columns := c.name :: filtered }
  | .lookup =>
    let selection ← v.selectionOf i
    let key ← v.keyCondition i
    return { query := { selection, source := v.name, condition := some key },
             columns := selection.columns ++ filtered ++ [key.column] }
  | .filter =>
    let selection ← v.selectionOf i
    match filter with
    | none => throw (.noFilter v.entityName)
    | some _ =>
      return { query := { selection, source := v.name, condition := filter },
               columns := selection.columns ++ filtered }

end FactModel
