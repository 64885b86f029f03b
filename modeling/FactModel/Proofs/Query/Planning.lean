import FactModel.Proofs.Graph.Compiling
import FactModel.Proofs.Query.Rereading
import FactModel.Proofs.View.Housing
import FactModel.Proofs.View.Lookup

/-!
# What a planned query does

The text of the query for an intent is read as a database reads it.  It takes just the rows that the
intent asks for, and the columns listed along with it are those that it refers to.  There are two
exceptions: in a query that looks a row up by its identifier a further filter is left out, although
its column is listed, and a text in which a name or a literal is taken for something else means
something else.
-/

namespace FactModel

open Sql

/-! ## The rows that a query takes -/

/-- What an intent asks of rows. -/
inductive Intent.Asks (i : Intent) (v : View) : Equality → Prop
  /-- An attribute and a value for it are a filter, whatever the shape. -/
  | filter {attr value : String} {c : ViewColumn} (named : i.filterAttr = some attr)
      (given : i.filterValue = some value) (found : v.column? attr = some c) :
      Asks i v (View.equality c value)
  /-- A look-up asks for an identifier. -/
  | key {key value : String} {c : ViewColumn} (lookup : i.shape = .lookup)
      (isKey : v.keyColumn = some key) (given : i.keyValue = some value)
      (found : v.column? key = some c) :
      Asks i v (View.equality c value)

/-- Whether a row has the value that a condition asks for. -/
def Equality.Holds {V : Type} (dom : Domain V) (e : Equality) (row : Row V) : Prop :=
  row e.column = some (dom.ofLiteral e.value)

/-- Whether a query takes only rows for which a condition holds, whatever the rows and the values in
them are. -/
def Sql.Statement.Restricts (st : Sql.Statement) (e : Equality) : Prop :=
  ∀ (V : Type) [DecidableEq V] (dom : Domain V) (db : Contents V),
    ∀ row ∈ st.rows dom db, e.Holds dom row

/-- A query does all that an intent over a view says.

* It refers to no other table, and the columns listed are those that it refers to, in order of
  appearance; the view has them.
* It takes only rows that pass the filter, when the intent names an attribute and a value for one.
* A look-up takes only rows with the identifier that is asked for.
* All rows are taken that are asked for. -/
structure Planned.Fulfils (i : Intent) (v : View) (p : Planned) (st : Sql.Statement) : Prop where
  tables : st.tables = [v.name]
  reports : p.columns = st.columns
  known : ∀ name ∈ p.columns, ∃ c ∈ v.columns, c.name = name
  filtered : ∀ attr value, i.filterAttr = some attr → i.filterValue = some value →
    ∃ c, v.column? attr = some c ∧ st.Restricts (View.equality c value)
  keyed : i.shape = .lookup → ∃ key value c, v.keyColumn = some key ∧ i.keyValue = some value ∧
    v.column? key = some c ∧ st.Restricts (View.equality c value)
  kept : ∀ (V : Type) [DecidableEq V] (dom : Domain V) (db : Contents V), ∀ row ∈ db v.name,
    (∀ e, i.Asks v e → e.Holds dom row) → row ∈ st.rows dom db

/-- The text of a plan is read, in a dialect, as a query that does all that an intent says. -/
def Planned.Complete (d : Dialect) (i : Intent) (v : View) (p : Planned) : Prop :=
  ∃ st, Sql.Statement.ofText? (.ofName d.grammar) (p.query.render d) = some st ∧ p.Fulfils i v st

theorem Query.tables_statement (q : Query) : q.statement.tables = [q.source] := by
  cases condition : q.condition <;>
    simp [Sql.Statement.tables, statement, condition, equalTo, Term.tables]

theorem Query.columns_statement (q : Query) : q.statement.columns = q.columns := by
  cases condition : q.condition <;>
    simp [Sql.Statement.columns, columns, statement, condition, equalTo, Term.columns, Atom.columns]

/-- What a query that is read as it is written takes. -/
theorem Query.mem_rows_statement {V : Type} [DecidableEq V] (dom : Domain V) {q : Query}
    {db : Contents V} {row : Row V} :
    row ∈ q.statement.rows dom db ↔ row ∈ db q.source ∧ ∀ e ∈ q.condition, e.Holds dom row := by
  rw [Sql.Statement.rows, List.mem_filter]
  refine and_congr_right fun _ => ?_
  cases condition : q.condition with
  | none => simp [statement, condition]
  | some e =>
    have compares (value : Option V) :
        Operator.equal.holds dom value (some (dom.ofLiteral e.value)) = true ↔
          value = some (dom.ofLiteral e.value) := by
      cases value <;> simp [Operator.holds]
    simp [statement, condition, equalTo, Condition.holds, Term.value, Atom.value, compares,
      Equality.Holds]

/-- To take only rows with a literal in a column, a query must compare with that literal. -/
theorem Sql.Statement.Restricts.eq_literal {st : Sql.Statement} {e : Equality} {column : String}
    {value : Sql.Term} (restricts : st.Restricts e) (inScope : st.isScoped = true)
    (condition : st.condition = some (equalTo column value)) :
    value = .atom (.literal e.value) := by
  -- The values are literals, and one more that no literal is and that every number of rows is.
  let dom : Domain (Option Literal) := ⟨some, fun _ => none, fun _ _ => false⟩
  let row (x : Option Literal) : Row (Option Literal) := fun _ => some x
  have forced (x : Option Literal)
      (same : value.value dom (fun _ => [row x]) [(st.source.name, row x)] = some x) :
      x = some e.value := by
    have taken : row x ∈ st.rows dom (fun _ => [row x]) := by
      refine List.mem_filter.mpr ⟨List.mem_singleton_self _, ?_⟩
      rw [condition, Option.all_some]
      change Operator.equal.holds dom (some x) (value.value dom _ _) = true
      rw [same]
      exact decide_eq_true rfl
    exact Option.some.inj (restricts _ dom _ _ taken)
  cases value with
  | count source left operator right => exact absurd (forced none rfl) (by simp)
  | atom a =>
    cases a with
    | literal found => rw [Option.some.inj (forced (some found) rfl)]
    | column source name =>
      refine absurd (forced none ?_) (by simp)
      cases source with
      | none => rfl
      | some source =>
        have there : source = st.source.name := by
          simpa [isScoped, condition, equalTo, Term.inScope, Atom.inScope] using inScope
        simp [Term.value, Atom.value, there, row]

namespace View

variable {i : Intent} {v : View}

/-! ## What names in an intent mean -/

theorem resolve_eq_ok_iff {name : String} {c : ViewColumn} :
    v.resolve name = .ok c ↔ v.column? name = some c := by
  unfold resolve
  cases v.column? name <;> simp

theorem mem_of_column? {name : String} {c : ViewColumn} (found : v.column? name = some c) :
    c ∈ v.columns := by
  unfold column? at found
  split at found
  · next b byName =>
    obtain rfl := Option.some.inj found
    exact List.mem_of_find?_eq_some byName
  · split at found
    · next b byAttr =>
      obtain rfl := Option.some.inj found
      exact List.mem_of_find?_eq_some byAttr
    · split at found
      · contradiction
      · exact List.mem_of_find?_eq_some found

/-- The filter of an intent is an equality when both its parts are there. -/
theorem filterOf_cases {filter : Option Equality} (filters : v.filterOf i = .ok filter) :
    (filter = none ∧ ¬(i.filterAttr.isSome = true ∧ i.filterValue.isSome = true)) ∨
      ∃ attr value c, i.filterAttr = some attr ∧ i.filterValue = some value ∧
        v.column? attr = some c ∧ filter = some (equality c value) := by
  unfold filterOf at filters
  split at filters
  · next attr value named given =>
    obtain ⟨c, resolved, made⟩ := of_bind_eq_ok filters
    exact .inr ⟨attr, value, c, named, given, resolve_eq_ok_iff.mp resolved,
      (Except.ok.inj made).symm⟩
  · next missing =>
    refine .inl ⟨(Except.ok.inj filters).symm, fun both => ?_⟩
    obtain ⟨attr, named⟩ := Option.isSome_iff_exists.mp both.1
    obtain ⟨value, given⟩ := Option.isSome_iff_exists.mp both.2
    exact missing attr value named given

/-- What a query over a view selects. -/
inductive Selects (v : View) : Selection → Prop
  | all : Selects v .all
  | column {c : ViewColumn} (mem : c ∈ v.columns) : Selects v (.column c.name)
  | count : Selects v (.count (Name.identifier v.entityName ++ "_count"))
  | least {c : ViewColumn} (mem : c ∈ v.columns) : Selects v (.least c.name ("min_" ++ c.name))
  | greatest {c : ViewColumn} (mem : c ∈ v.columns) :
      Selects v (.greatest c.name ("max_" ++ c.name))

theorem selects_of_selectionOf {selection : Selection} (made : v.selectionOf i = .ok selection) :
    v.Selects selection := by
  unfold selectionOf at made
  split at made
  · obtain ⟨c, resolved, made⟩ := of_bind_eq_ok made
    obtain rfl := Except.ok.inj made
    exact .column (mem_of_column? (resolve_eq_ok_iff.mp resolved))
  · obtain rfl := Except.ok.inj made
    exact .all

theorem mem_columns_of_extremeColumn {c : ViewColumn} (extreme : v.extremeColumn i = .ok c) :
    c ∈ v.columns := by
  unfold extremeColumn at extreme
  split at extreme
  · exact mem_of_column? (resolve_eq_ok_iff.mp extreme)
  · contradiction

/-- The columns that are selected are columns of the view. -/
theorem Selects.known {selection : Selection} (selects : v.Selects selection) :
    ∀ name ∈ selection.columns, ∃ c ∈ v.columns, c.name = name := by
  cases selects with
  | all | count => simp [Selection.columns]
  | column mem | least mem | greatest mem =>
    exact fun name isName => ⟨_, mem, (List.mem_singleton.mp isName).symm⟩

/-- The names that are selected are plain when those of the columns are. -/
theorem Selects.plain {selection : Selection} (selects : v.Selects selection)
    (columns : ∀ c ∈ v.columns, Name.IsPlain c.name) : selection.Plain := by
  cases selects with
  | all => trivial
  | column mem => exact columns _ mem
  | count =>
    refine ⟨(Name.isPlain_identifier _).append (by decide), fun empty => ?_⟩
    simpa using congrArg String.toList empty
  | @least c mem =>
    refine ⟨columns c mem, Name.IsPlain.append (by decide) (columns c mem), fun empty => ?_⟩
    simpa using congrArg String.toList empty
  | @greatest c mem =>
    refine ⟨columns c mem, Name.IsPlain.append (by decide) (columns c mem), fun empty => ?_⟩
    simpa using congrArg String.toList empty

theorem keyCondition_eq_ok {condition : Equality} (keyed : v.keyCondition i = .ok condition) :
    ∃ key value c, v.keyColumn = some key ∧ i.keyValue = some value ∧ v.column? key = some c ∧
      condition = equality c value := by
  unfold keyCondition at keyed
  split at keyed
  · next key value isKey given =>
    obtain ⟨c, resolved, made⟩ := of_bind_eq_ok keyed
    exact ⟨key, value, c, isKey, given, resolve_eq_ok_iff.mp resolved, (Except.ok.inj made).symm⟩
  · contradiction

end View

namespace Planned

variable {i : Intent} {v : View} {p : Planned}

/-! ## What a plan is -/

/-- A plan that looks a row up.  Its condition is on the identifier, and the column of the filter is
listed. -/
structure LooksUp (i : Intent) (v : View) (filter : Option Equality) (p : Planned) : Prop where
  shape : i.shape = .lookup
  condition : ∃ key, v.keyCondition i = .ok key ∧ p.query.condition = some key ∧
    p.columns = p.query.selection.columns ++ (filter.map (·.column)).toList ++ [key.column]

/-- A plan whose condition is the filter. -/
structure Filters (i : Intent) (filter : Option Equality) (p : Planned) : Prop where
  shape : i.shape ≠ .lookup
  condition : p.query.condition = filter
  columns : p.columns = p.query.columns

/-- A plan looks a row up or it filters, and it selects from the view. -/
theorem ofIntent_cases (planned : ofIntent i v = .ok p) : ∃ filter, v.filterOf i = .ok filter ∧
    (LooksUp i v filter p ∨ Filters i filter p) ∧
      v.Selects p.query.selection ∧ p.query.source = v.name := by
  obtain ⟨filter, filters, made⟩ := of_bind_eq_ok planned
  refine ⟨filter, filters, ?_⟩
  cases shape : i.shape with
  | count =>
    simp only [shape] at made
    obtain rfl := Except.ok.inj made
    exact ⟨.inr ⟨by simp [shape], rfl, rfl⟩, .count, rfl⟩
  | min =>
    simp only [shape] at made
    obtain ⟨c, extreme, made⟩ := of_bind_eq_ok made
    obtain rfl := Except.ok.inj made
    exact ⟨.inr ⟨by simp [shape], rfl, rfl⟩, .least (View.mem_columns_of_extremeColumn extreme), rfl⟩
  | max =>
    simp only [shape] at made
    obtain ⟨c, extreme, made⟩ := of_bind_eq_ok made
    obtain rfl := Except.ok.inj made
    exact ⟨.inr ⟨by simp [shape], rfl, rfl⟩, .greatest (View.mem_columns_of_extremeColumn extreme),
      rfl⟩
  | lookup =>
    simp only [shape] at made
    obtain ⟨selection, selects, made⟩ := of_bind_eq_ok made
    obtain ⟨key, keyed, made⟩ := of_bind_eq_ok made
    obtain rfl := Except.ok.inj made
    exact ⟨.inl ⟨shape, key, keyed, rfl, rfl⟩, View.selects_of_selectionOf selects, rfl⟩
  | filter =>
    simp only [shape] at made
    obtain ⟨selection, selects, made⟩ := of_bind_eq_ok made
    cases filter with
    | none => contradiction
    | some e =>
      obtain rfl := Except.ok.inj made
      exact ⟨.inr ⟨by simp [shape], rfl, rfl⟩, View.selects_of_selectionOf selects, rfl⟩

/-- The condition of a plan is asked for. -/
theorem asks_of_condition (planned : ofIntent i v = .ok p) {e : Equality}
    (condition : p.query.condition = some e) : i.Asks v e := by
  obtain ⟨filter, filters, lookup | other, -⟩ := ofIntent_cases planned
  · obtain ⟨key, keyed, isCondition, -⟩ := lookup.condition
    obtain rfl := Option.some.inj (condition.symm.trans isCondition)
    obtain ⟨name, value, c, isKey, given, found, rfl⟩ := View.keyCondition_eq_ok keyed
    exact .key lookup.shape isKey given found
  · rw [other.condition] at condition
    rcases View.filterOf_cases filters with ⟨rfl, -⟩ | ⟨attr, value, c, named, given, found, rfl⟩
    · contradiction
    · obtain rfl := Option.some.inj condition
      exact .filter named given found

/-- Nothing else is asked for, unless a row is looked up that should pass a filter as well. -/
theorem condition_of_asks (planned : ofIntent i v = .ok p)
    (notBoth : ¬(i.shape = .lookup ∧ i.filterAttr.isSome = true ∧ i.filterValue.isSome = true))
    {e : Equality} (asks : i.Asks v e) : p.query.condition = some e := by
  obtain ⟨filter, filters, lookup | other, -⟩ := ofIntent_cases planned
  · obtain ⟨key, keyed, isCondition, -⟩ := lookup.condition
    obtain ⟨name, value, c, isKey, given, found, rfl⟩ := View.keyCondition_eq_ok keyed
    cases asks with
    | filter named wanted => exact absurd ⟨lookup.shape, by simp [named], by simp [wanted]⟩ notBoth
    | key _ isKey' given' found' =>
      obtain rfl := Option.some.inj (isKey.symm.trans isKey')
      obtain rfl := Option.some.inj (given.symm.trans given')
      obtain rfl := Option.some.inj (found.symm.trans found')
      exact isCondition
  · cases asks with
    | key shape => exact absurd shape other.shape
    | filter named wanted found =>
      rcases View.filterOf_cases filters with
        ⟨-, missing⟩ | ⟨attr, value, c, named', wanted', found', rfl⟩
      · exact absurd ⟨by simp [named], by simp [wanted]⟩ missing
      · obtain rfl := Option.some.inj (named.symm.trans named')
        obtain rfl := Option.some.inj (wanted.symm.trans wanted')
        obtain rfl := Option.some.inj (found.symm.trans found')
        exact other.condition

/-- The columns listed are those of the query, unless a row is looked up that should pass a filter
as well. -/
theorem columns_eq_iff (planned : ofIntent i v = .ok p) : p.columns = p.query.columns ↔
    ¬(i.shape = .lookup ∧ i.filterAttr.isSome = true ∧ i.filterValue.isSome = true) := by
  obtain ⟨filter, filters, lookup | other, -⟩ := ofIntent_cases planned
  · obtain ⟨key, -, isCondition, columns⟩ := lookup.condition
    rw [columns, Query.columns, isCondition]
    rcases View.filterOf_cases filters with ⟨rfl, missing⟩ | ⟨attr, text, c, named, wanted, -, rfl⟩
    · simpa [lookup.shape] using missing
    · simp [lookup.shape, named, wanted]
  · exact iff_of_true other.columns fun both => other.shape both.1

/-- The columns listed are columns of the view. -/
theorem known_of_ofIntent (planned : ofIntent i v = .ok p) :
    ∀ name ∈ p.columns, ∃ c ∈ v.columns, c.name = name := by
  obtain ⟨filter, filters, plan, selects, -⟩ := ofIntent_cases planned
  have selected := selects.known
  have filtered : ∀ name ∈ (filter.map (·.column)).toList, ∃ c ∈ v.columns, c.name = name := by
    rcases View.filterOf_cases filters with ⟨rfl, -⟩ | ⟨attr, value, c, -, -, found, rfl⟩
    · simp
    · simpa [View.equality] using ⟨c, View.mem_of_column? found, rfl⟩
  rcases plan with lookup | other
  · obtain ⟨key, keyed, -, columns⟩ := lookup.condition
    obtain ⟨key, value, c, -, -, found, rfl⟩ := View.keyCondition_eq_ok keyed
    rw [columns]
    intro name mem
    simp only [List.mem_append, List.mem_singleton] at mem
    rcases mem with (selects | filters) | rfl
    · exact selected name selects
    · exact filtered name filters
    · exact ⟨c, View.mem_of_column? found, rfl⟩
  · rw [other.columns, Query.columns, other.condition]
    exact fun name mem => (List.mem_append.mp mem).elim (selected name) (filtered name)

/-- What the text of a plan is read as does all that the intent says, when it is the query that was
planned. -/
theorem fulfils_statement (planned : ofIntent i v = .ok p)
    (notBoth : ¬(i.shape = .lookup ∧ i.filterAttr.isSome = true ∧ i.filterValue.isSome = true)) :
    p.Fulfils i v p.query.statement := by
  have restricts {e : Equality} (asks : i.Asks v e) : p.query.statement.Restricts e :=
    fun V _ dom db row taken => ((Query.mem_rows_statement dom).mp taken).2 e
      (condition_of_asks planned notBoth asks)
  obtain ⟨filter, filters, plan, -, source⟩ := ofIntent_cases planned
  constructor
  case tables => rw [Query.tables_statement, source]
  case reports => rw [Query.columns_statement, (columns_eq_iff planned).mpr notBoth]
  case known => exact known_of_ofIntent planned
  case filtered =>
    intro attr value named given
    rcases View.filterOf_cases filters with
      ⟨-, missing⟩ | ⟨attr', value', c, named', given', found, -⟩
    · exact absurd ⟨by simp [named], by simp [given]⟩ missing
    · obtain rfl := Option.some.inj (named.symm.trans named')
      exact ⟨c, found, restricts (.filter named given found)⟩
  case keyed =>
    intro shape
    rcases plan with lookup | other
    · obtain ⟨condition, keyed, -⟩ := lookup.condition
      obtain ⟨key, value, c, isKey, given, found, -⟩ := View.keyCondition_eq_ok keyed
      exact ⟨key, value, c, isKey, given, found, restricts (.key shape isKey given found)⟩
    · exact absurd shape other.shape
  case kept =>
    intro V _ dom db row mem asked
    rw [Query.mem_rows_statement, source]
    exact ⟨mem, fun e condition => asked e (asks_of_condition planned condition)⟩

/-- A query is read as it was planned, when it does what the intent says. -/
theorem readable_of_complete {d : Dialect} (usual : d ∈ Dialect.usual) (plain : p.query.Plain)
    (planned : ofIntent i v = .ok p) (complete : p.Complete d i v) :
    p.query.Readable d ∧ p.columns = p.query.columns := by
  obtain ⟨st, read, fulfils⟩ := complete
  obtain ⟨selection, inScope, selects, -, empty, compared⟩ := Query.of_ofText? usual plain read
  have restricts {e : Equality} (asks : i.Asks v e) : st.Restricts e := by
    cases asks with
    | filter named given found =>
      obtain ⟨c, found', restricts⟩ := fulfils.filtered _ _ named given
      obtain rfl := Option.some.inj (found.symm.trans found')
      exact restricts
    | key lookup isKey given found =>
      obtain ⟨key, value, c, isKey', given', found', restricts⟩ := fulfils.keyed lookup
      obtain rfl := Option.some.inj (isKey.symm.trans isKey')
      obtain rfl := Option.some.inj (given.symm.trans given')
      obtain rfl := Option.some.inj (found.symm.trans found')
      exact restricts
  rw [fulfils.reports, Sql.Statement.columns, Query.columns, selects]
  cases condition : p.query.condition with
  | none => exact ⟨⟨selection, by simp [condition]⟩, by simp [empty condition]⟩
  | some e =>
    obtain ⟨shows, value, isCondition, harmless⟩ := compared e condition
    have literal := (restricts (asks_of_condition planned condition)).eq_literal inScope isCondition
    refine ⟨⟨selection, ?_⟩, ?_⟩
    · rintro _ same
      obtain rfl := Option.some.inj (condition.symm.trans same)
      exact ⟨shows, harmless literal⟩
    · simp [isCondition, literal, equalTo, Term.columns, Atom.columns]

/-- The names in a planned query are plain when those of the view are. -/
theorem plain_of_ofIntent (planned : ofIntent i v = .ok p)
    (columns : ∀ c ∈ v.columns, Name.IsPlain c.name) (name : Name.IsPlain v.name)
    (start : ∃ rest, v.name = View.viewStart ++ rest) : p.query.Plain := by
  obtain ⟨-, -, -, selects, source⟩ := ofIntent_cases planned
  refine ⟨selects.plain columns, ?_, fun e condition => ?_⟩
  · obtain ⟨rest, isAppend⟩ := start
    rw [source, isAppend]
    exact isTableName_append (by simp) (isAppend ▸ name)
  · cases asks_of_condition planned condition with
    | filter _ _ found | key _ _ _ found =>
      exact ⟨columns _ (View.mem_of_column? found), Literal.proper_ofValue _ _⟩

/-- The names in a query that is planned over a view of a compiled graph are plain. -/
theorem plain_of_compile {text : String} {g : Graph} (compiles : compile text = .ok g)
    {entity : Nat} (viewed : View.ofEntity g (Schema.ofGraph g) entity = .ok v)
    (planned : ofIntent i v = .ok p) : p.query.Plain := by
  obtain ⟨doc, -, compiled⟩ := compiled_of_compile compiles
  obtain ⟨t, table, -⟩ := View.names_of_ofEntity viewed
  obtain ⟨name, start⟩ := View.isPlain_name_of_ofEntity compiled viewed
  exact plain_of_ofIntent planned (fun c => View.isPlain_of_mem_columns compiled table viewed) name
    start

/-- Whether the query for an intent over the view of an entity passes a test. -/
def plansTo (g : Graph) (entity : Nat) (i : Intent) (test : View → Planned → Bool) : Bool :=
  match View.ofEntity g (Schema.ofGraph g) entity with
  | .ok v =>
    match ofIntent i v with
    | .ok p => test v p
    | .error _ => false
  | .error _ => false

theorem of_plansTo {g : Graph} {entity : Nat} {i : Intent} {test : View → Planned → Bool}
    (passes : plansTo g entity i test = true) : ∃ v p,
      View.ofEntity g (Schema.ofGraph g) entity = .ok v ∧ ofIntent i v = .ok p ∧
        test v p = true := by
  unfold plansTo at passes
  split at passes
  · next v viewed =>
    split at passes
    · next p planned => exact ⟨v, p, viewed, planned, passes⟩
    · contradiction
  · contradiction

end Planned

end FactModel
