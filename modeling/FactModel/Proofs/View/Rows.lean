import FactModel.View.Layout
import Mathlib.Data.List.Nodup
import Mathlib.Logic.Function.Basic

/-!
# The rows of a view

A view is evaluated on the rows of tables as a query is: its joins extend combinations of rows one
after the other, by left joins, and its columns are read off the combinations.  What the rows of a
view should be is said without joins: along a path of relationships each row refers to at most one
other, by the value of a foreign key.
-/

namespace FactModel

/-- A row, its values given by the names of columns.  A missing value is NULL. -/
abbrev Row (V : Type) := String → Option V

/-- The rows of tables, given by the names of the tables. -/
abbrev Contents (V : Type) := String → List (Row V)

/-- A combination of rows, given by aliases. -/
abbrev Combined (V : Type) := String → Row V

/-- The row that stands in for one that is missing. -/
def Row.null {V : Type} : Row V :=
  fun _ => none

variable {V : Type} [DecidableEq V]

/-! ## Evaluation -/

/-- The rows that a join matches with a combination; NULL matches nothing. -/
def Join.matching (j : Join) (db : Contents V) (rows : Combined V) : List (Row V) :=
  (db j.table).filter fun row =>
    (row j.refColumn).isSome && row j.refColumn == rows j.parent j.column

/-- A left join keeps a combination once for every match, and with NULLs when there is none. -/
def Join.leftJoin (j : Join) (db : Contents V) (rows : Combined V) : List (Combined V) :=
  match j.matching db rows with
  | [] => [Function.update rows j.tableAlias Row.null]
  | found => found.map (Function.update rows j.tableAlias)

/-- The combinations of rows that joins in order make of one row of the base table. -/
def Join.combine (db : Contents V) (joins : List Join) (start : List (Combined V)) :
    List (Combined V) :=
  joins.foldl (fun combined j => combined.flatMap (j.leftJoin db)) start

/-- The rows of a view: for each combination of rows the values of its columns. -/
def View.eval (v : View) (db : Contents V) : List (List (String × Option V)) :=
  (Join.combine db v.joins
    ((db v.baseTable).map (Function.update (fun _ => Row.null) View.baseAlias))).map fun rows =>
      v.columns.map fun c => (c.name, rows c.tableAlias c.sourceColumn)

theorem Join.combine_concat (db : Contents V) (joins : List Join) (j : Join)
    (start : List (Combined V)) :
    Join.combine db (joins ++ [j]) start = (Join.combine db joins start).flatMap (j.leftJoin db) := by
  simp [Join.combine, List.foldl_append]

theorem Join.combine_flatMap (db : Contents V) (joins : List Join) (start : List (Combined V)) :
    Join.combine db joins start = start.flatMap fun rows => Join.combine db joins [rows] := by
  induction joins generalizing start with
  | nil => simp [Join.combine]
  | cons j rest ih =>
    rw [Join.combine, List.foldl_cons, ← Join.combine, ih, List.flatMap_assoc]
    refine List.flatMap_congr fun rows _ => ?_
    rw [Join.combine, List.foldl_cons, ← Join.combine, List.flatMap_singleton, ← ih]

/-! ## References -/

/-- Primary keys are never NULL, and no two rows of a table have the same. -/
def Schema.Keyed (s : Schema) (db : Contents V) : Prop :=
  ∀ t ∈ s.tables, ((db t.name).map fun row => t.primaryKey.map row).Nodup ∧
    ∀ row ∈ db t.name, ∀ column ∈ t.primaryKey, row column ≠ none

/-- The row of a table with a given primary key. -/
def Table.lookup (t : Table) (db : Contents V) (key : V) : Option (Row V) :=
  (db t.name).find? fun row => t.primaryKey.map row == [some key]

namespace Graph

/-- The row that a row refers to along a relationship: the row of the target's table whose primary
key is the value of the foreign key column that backs the relationship. -/
def referenced (g : Graph) (s : Schema) (db : Contents V) (relationship : Nat) (row : Row V) :
    Row V :=
  match g.relationships[relationship]?, s.keyFor? relationship with
  | some r, some k =>
    match s.tableOf r.target, row k.column with
    | .ok t, some key => (t.lookup db key).getD Row.null
    | _, _ => Row.null
  | _, _ => Row.null

/-- The row reached along a path of relationships. -/
def follow (g : Graph) (s : Schema) (db : Contents V) : List Nat → Row V → Row V
  | [], row => row
  | relationship :: path, row => follow g s db path (g.referenced s db relationship row)

/-- The column that stores the explicit attribute at the end of a derivation path. -/
def storedIn? (g : Graph) (s : Schema) (d : DerivedAttribute) : Option Column :=
  (g.attributes[d.source]?).bind fun a => (s.tableOf a.entity).toOption.bind (·.columnFor? a.index)

/-- The value of a derived attribute: that of the column of its source, in the row reached along its
path. -/
def derivedValue (g : Graph) (s : Schema) (db : Contents V) (d : DerivedAttribute) (row : Row V) :
    Option V :=
  (g.storedIn? s d).bind fun c => g.follow s db d.path row c.name

theorem follow_append (g : Graph) (s : Schema) (db : Contents V) (first second : List Nat)
    (row : Row V) :
    g.follow s db (first ++ second) row = g.follow s db second (g.follow s db first row) := by
  induction first generalizing row with
  | nil => rfl
  | cons i rest ih => exact ih _

end Graph

/-! ## Joining along a key -/

/-- Where values are different, the rows with a given value are the one that is found. -/
theorem filter_eq_toList_find? {α β : Type} [BEq β] [LawfulBEq β] {f : α → β} {l : List α}
    (nodup : (l.map f).Nodup) (b : β) :
    l.filter (f · == b) = (l.find? (f · == b)).toList := by
  induction l with
  | nil => rfl
  | cons a rest ih =>
    obtain ⟨notThere, restNodup⟩ := List.nodup_cons.mp nodup
    by_cases here : f a == b
    · have none : rest.filter (f · == b) = [] := by
        rw [List.filter_eq_nil_iff]
        intro other mem there
        refine notThere (List.mem_map.mpr ⟨other, mem, ?_⟩)
        rw [eq_of_beq here, eq_of_beq there]
      rw [List.filter_cons_of_pos (p := (f · == b)) here,
        List.find?_cons_of_pos (p := (f · == b)) here, none]
      rfl
    · rw [List.filter_cons_of_neg (p := (f · == b)) here,
        List.find?_cons_of_neg (p := (f · == b)) here]
      exact ih restNodup

/-- A left join to the primary key of a table extends a combination in just one way. -/
theorem Join.leftJoin_eq {j : Join} {db : Contents V} {t : Table} {column : String}
    (primary : t.primaryKey = [column]) (table : j.table = t.name) (refColumn : j.refColumn = column)
    (nodup : ((db t.name).map fun row => t.primaryKey.map row).Nodup) (rows : Combined V) :
    j.leftJoin db rows = [Function.update rows j.tableAlias
      (((rows j.parent j.column).bind (t.lookup db)).getD Row.null)] := by
  rw [leftJoin]
  cases value : rows j.parent j.column with
  | none =>
    have noMatch : j.matching db rows = [] := by
      rw [matching, List.filter_eq_nil_iff]
      intro row _
      rw [value]
      cases row j.refColumn <;> simp
    rw [noMatch]
    rfl
  | some key =>
    have found : j.matching db rows = (t.lookup db key).toList := by
      rw [matching, Table.lookup, ← filter_eq_toList_find? nodup, table]
      refine List.filter_congr fun row _ => ?_
      rw [primary, refColumn, value]
      cases read : row column <;> simp [read]
    rw [found]
    cases matched : t.lookup db key <;> simp [matched]

end FactModel
