import FactModel.Graph.Lookup
import FactModel.Schema.Mapping
import FactModel.View.Basic

/-!
# Laying out views

The columns of an entity's table come first, then one column per derived attribute.  Each distinct
beginning of a derivation path becomes one join; joins are ordered by length of path, then by the
names of the entities along it, then by the path itself, so that aliases do not depend on chance.
-/

namespace FactModel.View

open FactModel.Text

/-- What the names of all views begin with. -/
def viewStart : String := "logical_"

/-- A name without the beginning that all table names have. -/
def stem (table : String) : String :=
  let start := Mapping.tableStart.toList
  if start.isPrefixOf table.toList then String.ofList (table.toList.drop start.length) else table

/-- The view name that goes with a table name. -/
def viewName (table : String) : String :=
  viewStart ++ stem table

/-! ## Paths -/

/-- The nonempty beginnings of a path, shortest first. -/
def beginnings (path : List Nat) : List (List Nat) :=
  (List.range path.length).map fun n => path.take (n + 1)

/-- The names, without regard to case, of the entities along a path. -/
def pathNames (g : Graph) (path : List Nat) : List (List Char) :=
  path.map fun r => fold (g.targetName r).toList

/-- Whether a path is joined before another: by length, by names, by positions. -/
def pathBefore (g : Graph) (p q : List Nat) : Bool :=
  let ps := pathNames g p
  let qs := pathNames g q
  p.length < q.length ||
    (p.length == q.length && (decide (ps < qs) || (ps == qs && decide (p < q))))

/-- The paths that a view joins along, in order. -/
def joinPaths (g : Graph) (derived : List DerivedAttribute) : List (List Nat) :=
  ((derived.flatMap fun d => beginnings d.path).eraseDups).mergeSort fun p q =>
    !pathBefore g q p

/-! ## Joins -/

/-- The joins made so far and the relationships that could not be joined along. -/
structure Joins where
  joins : List Join
  skipped : List Nat

/-- The alias of the table at the end of a path. -/
def Joins.tableAlias? (js : Joins) (path : List Nat) : Option String :=
  if path = [] then some baseAlias else (js.joins.find? (·.path == path)).map (·.tableAlias)

/-- Joins along the `n`-th path. -/
def Joins.add (s : Schema) (js : Joins) : List Nat × Nat → Joins
  | (path, n) =>
    let relationship := path.getLastD 0
    match s.keyFor? relationship, js.tableAlias? path.dropLast with
    | some key, some parent =>
      { js with joins := js.joins ++
          [{ tableAlias := s!"t{n}", table := key.refTable, path, parent, column := key.column,
             refColumn := key.refColumn }] }
    | _, _ => { js with skipped := js.skipped ++ [relationship] }

/-- The joins along paths in order, numbered from one. -/
def joinsAlong (s : Schema) (paths : List (List Nat)) : Joins :=
  (paths.zipIdx 1).foldl (Joins.add s) { joins := [], skipped := [] }

/-! ## Columns -/

/-- The column of a view for a column of the entity's table and the attribute that it stores, if
any. -/
def ownColumn (c : Column) (stored : Option Attribute) : ViewColumn :=
  { name := c.name, attr := (stored.map (·.name)).getD c.name, tableAlias := baseAlias,
    sourceColumn := c.name, type := c.type, derived := false, path := [] }

/-- The column of a view for a column of the entity's table.  The attribute that the column stores
must be there. -/
def readOwn (g : Graph) (c : Column) : Except Missing ViewColumn :=
  match c.attr with
  | none => .ok (ownColumn c none)
  | some attr => do return ownColumn c (some (← g.attributeAt attr))

/-- The column that a derived attribute is read from, when its table still has it. -/
def sourceColumn? (g : Graph) (s : Schema) (d : DerivedAttribute) :
    Except Missing (Option Column) := do
  let source ← g.attributeAt d.source
  let table ← s.tableOf source.entity
  return table.columnFor? d.source

/-- A derived attribute and where its values come from, as far as that is known. -/
structure Sourced where
  derived : DerivedAttribute
  tableAlias : Option String
  source : Option Column

/-- Adds a derived attribute to a view, or leaves it out with a note. -/
def addDerived (v : View) (d : Sourced) : View :=
  match d.tableAlias, d.source with
  | some tableAlias, some source =>
    let name := Name.identifier d.derived.name
    if v.columns.any (·.name == name) then
      { v with
        hidden := v.hidden ++ [d.derived.name]
        notes := v.notes ++ [.clash d.derived.name name] }
    else
      { v with columns := v.columns ++
          [{ name, attr := d.derived.name, tableAlias, sourceColumn := source.name,
             type := d.derived.type, derived := true, path := d.derived.path }] }
  | _, _ =>
    { v with
      hidden := v.hidden ++ [d.derived.name]
      notes := v.notes ++ [.unsourced d.derived.name] }

/-- The view of an entity over a schema. -/
def ofEntity (g : Graph) (s : Schema) (entity : Nat) : Except Missing View := do
  let e ← g.entityAt entity
  let table ← s.tableOf entity
  let own ← table.columns.mapM (readOwn g)
  let derived := g.derivedOf entity
  -- The joins are ordered by the names of the entities that the paths lead to.
  derived.forM fun d => g.checkPath d.path
  let js := joinsAlong s (joinPaths g derived)
  let start : View :=
    { name := viewName table.name, entity, entityName := e.name,
      baseTable := table.name, keyColumn := table.primaryKey.head?,
      columns := own, joins := js.joins, hidden := [],
      notes := js.skipped.map .skippedJoin }
  let sourced ← derived.mapM fun d => do
    return {
      derived := d, tableAlias := js.tableAlias? d.path, source := ← sourceColumn? g s d : Sourced }
  return sourced.foldl addDerived start

/-- The views of all entities, in order. -/
def all (g : Graph) (s : Schema) : Except Missing (List View) :=
  g.entities.mapM fun e => ofEntity g s e.index

end FactModel.View
