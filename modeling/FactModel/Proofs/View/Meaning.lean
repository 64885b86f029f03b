import FactModel.Proofs.Schema.Columns
import FactModel.Proofs.View.Joins

/-!
# What views mean

The view of an entity has one row for each row of the entity's table.  The columns of the table keep
their values, and a derived attribute has the value that is found by following its path.
-/

namespace FactModel

/-! ## Lists of which each element succeeds -/

theorem mapM_eq_ok {ε α β : Type} {f : α → Except ε β} {h : α → β} {l : List α}
    (succeeds : ∀ a ∈ l, f a = .ok (h a)) : l.mapM f = .ok (l.map h) := by
  induction l with
  | nil => rfl
  | cons a rest ih =>
    rw [List.mapM_cons, succeeds a (by simp),
      ih fun b mem => succeeds b (List.mem_cons_of_mem _ mem)]
    rfl

/-- A function succeeds with results of a kind on all elements of a list. -/
theorem exists_mapM_eq_ok_iff {ε α β : Type} {f : α → Except ε β} {P : β → Prop} {l : List α} :
    (∃ bs, l.mapM f = .ok bs ∧ ∀ b ∈ bs, P b) ↔ ∀ a ∈ l, ∃ b, f a = .ok b ∧ P b := by
  induction l with
  | nil => simp [pure, Except.pure]
  | cons a rest ih =>
    rw [List.forall_mem_cons, ← ih]
    simp only [List.mapM_cons]
    constructor
    · rintro ⟨bs, ran, holds⟩
      cases first : f a with
      | error e => simp [first, bind, Except.bind] at ran
      | ok b =>
        cases others : rest.mapM f with
        | error e => simp [first, others, bind, Except.bind] at ran
        | ok later =>
          simp only [first, others, bind, Except.bind, pure, Except.pure, Except.ok.injEq] at ran
          subst ran
          obtain ⟨here, there⟩ := List.forall_mem_cons.mp holds
          exact ⟨⟨b, rfl, here⟩, later, rfl, there⟩
    · rintro ⟨⟨b, first, here⟩, later, others, there⟩
      refine ⟨b :: later, ?_, List.forall_mem_cons.mpr ⟨here, there⟩⟩
      rw [first, others]
      rfl

theorem exists_mapM_eq_ok {ε α β : Type} {f : α → Except ε β} {l : List α}
    (succeeds : ∀ a ∈ l, ∃ b, f a = .ok b) : ∃ bs, l.mapM f = .ok bs := by
  obtain ⟨bs, ran, -⟩ := exists_mapM_eq_ok_iff (P := fun _ => True) |>.mpr fun a mem =>
    (succeeds a mem).imp fun _ ok => ⟨ok, trivial⟩
  exact ⟨bs, ran⟩

/-- The results stand in the order of the elements that they come from. -/
theorem forall₂_of_mapM_eq_ok {ε α β : Type} {f : α → Except ε β} {l : List α} {bs : List β}
    (ran : l.mapM f = .ok bs) : List.Forall₂ (fun a b => f a = .ok b) l bs := by
  induction l generalizing bs with
  | nil =>
    obtain rfl := Except.ok.inj ran
    exact .nil
  | cons a rest ih =>
    rw [List.mapM_cons] at ran
    obtain ⟨b, first, others⟩ := of_bind_eq_ok ran
    obtain ⟨later, restRan, rfl⟩ := of_map_eq_ok others
    exact .cons first (ih restRan)

theorem mem_of_mapM_eq_ok {ε α β : Type} {f : α → Except ε β} {l : List α} {bs : List β}
    (ran : l.mapM f = .ok bs) {b : β} : b ∈ bs ↔ ∃ a ∈ l, f a = .ok b := by
  have each := forall₂_of_mapM_eq_ok ran
  clear ran
  induction each with
  | nil => simp
  | @cons a c _ _ first _ ih =>
    rw [List.mem_cons, List.exists_mem_cons_iff, first, Except.ok.injEq, eq_comm]
    exact or_congr Iff.rfl ih

/-! ## What is looked up for a view -/

/-- Whatever the columns of a table store are attributes of a graph. -/
def Table.StoresIn (t : Table) (g : Graph) : Prop :=
  ∀ c ∈ t.columns, ∀ attr, c.attr = some attr → attr < g.attributes.length

namespace View

/-- The column of a view for a column of a table that stores an attribute of the graph, if any. -/
def shownColumn (g : Graph) (c : Column) : ViewColumn :=
  ownColumn c (c.attr.bind fun attr => g.attributes[attr]?)

theorem readOwn_eq {g : Graph} {c : Column}
    (inside : ∀ attr, c.attr = some attr → attr < g.attributes.length) :
    readOwn g c = .ok (shownColumn g c) := by
  unfold readOwn shownColumn
  cases stored : c.attr with
  | none => rfl
  | some attr =>
    have bound := inside attr stored
    simp only [Graph.attributeAt_eq_ok bound, Option.bind_some, List.getElem?_eq_getElem bound]
    rfl

theorem lt_of_readOwn_eq_ok {g : Graph} {c : Column} {shown : ViewColumn}
    (reads : readOwn g c = .ok shown) {attr : Nat} (stored : c.attr = some attr) :
    attr < g.attributes.length := by
  rw [readOwn, stored] at reads
  obtain ⟨a, found, -⟩ := of_bind_eq_ok reads
  exact Graph.lt_of_attributeAt_eq_ok found

/-! ## What is meant -/

/-- The value that a column of the view of an entity should have in the row for a given row. -/
def meaning {V : Type} [DecidableEq V] (g : Graph) (s : Schema) (db : Contents V) (entity : Nat)
    (c : ViewColumn) (row : Row V) : Option V :=
  if c.derived then
    ((g.derivedOf entity).find? (·.name == c.attr)).bind fun d => g.derivedValue s db d row
  else row c.name

/-- A view means what the paths of derivation say, whatever rows the tables have.

* Its own columns are those of the table.
* Each other column shows a derived attribute, whose source is stored in a column.
* Each relationship of a path is backed by a key of the table of its source, and no join is left
  out.
* There is one row for each row of the table, with the values that the columns should have. -/
structure Faithful (g : Graph) (s : Schema) (entity : Nat) (t : Table) (v : View) : Prop where
  own : (v.columns.filter (!·.derived)).map (·.name) = t.columns.map (·.name)
  derived : ∀ c ∈ v.columns, c.derived = true → ∃ d ∈ g.derivedOf entity, c.attr = d.name ∧
    c.path = d.path ∧ c.name = Name.identifier d.name ∧ (g.storedIn? s d).isSome = true
  backed : ∀ c ∈ v.columns, ∀ i ∈ c.path, ∃ r k u, g.relationships[i]? = some r ∧
    s.keyFor? i = some k ∧ s.tableOf r.source = .ok u ∧ k ∈ u.foreignKeys ∧
    u.hasColumn k.column = true
  joined : ∀ i, .skippedJoin i ∉ v.notes
  rows : ∀ (V : Type) [DecidableEq V] (db : Contents V), s.Keyed db →
    v.eval db = (db t.name).map fun row =>
      v.columns.map fun c => (c.name, meaning g s db entity c row)

/-! ## The columns of a view -/

/-- A column that shows a derived attribute, read from where its path and its source say. -/
structure Shows (g : Graph) (s : Schema) (js : Joins) (entity : Nat) (c : ViewColumn) : Prop where
  isDerived : c.derived = true
  shown : ∃ d ∈ g.derivedOf entity, c.attr = d.name ∧ c.path = d.path ∧
    c.name = Name.identifier d.name ∧ js.tableAlias? d.path = some c.tableAlias ∧
    ∃ source, g.storedIn? s d = some source ∧ c.sourceColumn = source.name

section Columns

variable {doc : Document} {g : Graph} (compiled : Compiled doc g)

include compiled

/-- Where every entity has a table, a source is looked for without failure. -/
theorem sourceColumn?_eq {s : Schema}
    (tables : ∀ entity < g.entities.length, ∃ t, s.tableOf entity = .ok t) {d : DerivedAttribute}
    (mem : d ∈ g.derived) : sourceColumn? g s d = .ok (g.storedIn? s d) := by
  obtain ⟨-, last, -, a, aMem, -, index, -⟩ := compiled.chain_of_mem_derived mem
  have inGraph : a ∈ g.attributes := (compiled.mem_attributesOf.mp aMem).1
  have found : g.attributes[d.source]? = some a := by
    rw [← index]
    exact compiled.wellFormed.placed.attributeIndex.getElem? inGraph
  obtain ⟨t, table⟩ := tables a.entity (compiled.wellFormed.placed.ownerBound a inGraph)
  rw [Graph.storedIn?, found, Option.bind_some, table, index, sourceColumn?, Graph.attributeAt, found]
  exact congrArg (Except.map (·.columnFor? d.source)) table

/-- The tables of the schema of a graph store attributes of the graph only. -/
theorem storesIn_ofGraph {t : Table} (mem : t ∈ (Schema.ofGraph g).tables) : t.StoresIn g := by
  intro c cMem attr stored
  obtain ⟨a, aMem, rfl, -⟩ := (Mapping.columnSound_of_mem mem cMem).stores attr stored
  exact compiled.wellFormed.placed.attributeIndex.lt_length (compiled.mem_attributesOf.mp aMem).1

theorem exists_tableOf : ∀ entity < g.entities.length,
    ∃ t, (Schema.ofGraph g).tableOf entity = .ok t := by
  intro entity inside
  obtain ⟨t, -, table, -⟩ := Mapping.tableOf_eq_ok compiled inside
  exact ⟨t, table⟩

end Columns

/-- What a view is while derived attributes are added to it. -/
structure Laid (g : Graph) (s : Schema) (js : Joins) (entity : Nat) (t : Table) (v : View) :
    Prop where
  baseTable : v.baseTable = t.name
  joins : v.joins = js.joins
  columns : ∃ extra, v.columns = t.columns.map (shownColumn g) ++ extra ∧
    ∀ c ∈ extra, Shows g s js entity c
  joined : ∀ i, .skippedJoin i ∉ v.notes

/-- A derived attribute only changes the columns, the hidden attributes and the notes of a view. -/
theorem addDerived_eq (v : View) (d : Sourced) : ∃ columns hidden notes,
    v.addDerived d = { v with columns, hidden, notes } := by
  unfold addDerived
  split
  · extract_lets name
    split <;> exact ⟨_, _, _, rfl⟩
  · exact ⟨_, _, _, rfl⟩

/-- A derived attribute and where a view reads it from. -/
def sourcedBy (g : Graph) (s : Schema) (js : Joins) (d : DerivedAttribute) : Sourced :=
  { derived := d, tableAlias := js.tableAlias? d.path, source := g.storedIn? s d }

theorem Laid.addDerived {g : Graph} {s : Schema} {js : Joins} {entity : Nat} {t : Table} {v : View}
    (laid : Laid g s js entity t v) {d : DerivedAttribute} (mem : d ∈ g.derivedOf entity) :
    Laid g s js entity t (v.addDerived (sourcedBy g s js d)) := by
  obtain ⟨baseTable, joins, ⟨extra, columns, shows⟩, joined⟩ := laid
  unfold View.addDerived
  split
  · next tableAlias source aliased stored =>
    extract_lets name
    split
    · exact ⟨baseTable, joins, ⟨extra, columns, shows⟩, by simpa using joined⟩
    · refine ⟨baseTable, joins, ⟨extra ++ [{
          name, attr := d.name, tableAlias, sourceColumn := source.name, type := d.type,
          derived := true, path := d.path }], ?_, ?_⟩, joined⟩
      · simp [columns, sourcedBy]
      · intro c cMem
        rcases List.mem_append.mp cMem with old | new
        · exact shows c old
        · obtain rfl := List.mem_singleton.mp new
          exact ⟨rfl, d, mem, rfl, rfl, rfl, aliased, source, stored, rfl⟩
  · exact ⟨baseTable, joins, ⟨extra, columns, shows⟩, by simpa using joined⟩

/-- The view of an entity before derived attributes are added. -/
def start (g : Graph) (entity : Nat) (t : Table) (js : Joins) : View :=
  { name := viewName t.name, entity, entityName := g.entityName entity, baseTable := t.name,
    keyColumn := t.primaryKey.head?, columns := t.columns.map (shownColumn g), joins := js.joins,
    hidden := [], notes := js.skipped.map .skippedJoin }

/-- Only what is in the graph is shown. -/
theorem storesIn_of_ofEntity {g : Graph} {s : Schema} {entity : Nat} {t : Table}
    (table : s.tableOf entity = .ok t) {v : View}
    (viewed : ofEntity g s entity = .ok v) : t.StoresIn g := by
  obtain ⟨e, -, afterEntity⟩ := of_bind_eq_ok viewed
  obtain ⟨u, found, afterTable⟩ := of_bind_eq_ok afterEntity
  obtain rfl := Except.ok.inj (table.symm.trans found)
  obtain ⟨own, reads, -⟩ := of_bind_eq_ok afterTable
  intro c mem attr stored
  obtain ⟨shown, read, -⟩ := exists_mapM_eq_ok_iff (P := fun _ => True) |>.mp
    ⟨own, reads, fun _ _ => trivial⟩ c mem
  exact lt_of_readOwn_eq_ok read stored

section Laying

variable {doc : Document} {g : Graph} (compiled : Compiled doc g) {entity : Nat} {t : Table}

include compiled

/-- Where every entity has a table, and what the table of an entity stores is in the graph, its view
is laid out by adding one derived attribute after the other. -/
theorem ofEntity_eq_foldl {s : Schema}
    (tables : ∀ entity < g.entities.length, ∃ t, s.tableOf entity = .ok t)
    (inGraph : entity < g.entities.length) (table : s.tableOf entity = .ok t)
    (stores : t.StoresIn g) :
    let js := joinsAlong s (joinPaths g (g.derivedOf entity))
    ofEntity g s entity = .ok (((g.derivedOf entity).map (sourcedBy g s js)).foldl addDerived
      (start g entity t js)) := by
  intro js
  have own : t.columns.mapM (readOwn g) = .ok (t.columns.map (shownColumn g)) :=
    mapM_eq_ok fun c mem => readOwn_eq (stores c mem)
  have paths : ((g.derivedOf entity).forM fun d => g.checkPath d.path) = .ok () :=
    forM_eq_ok fun d mem =>
      compiled.closed.checkPath_eq_ok (compiled.closed.derived d (List.mem_of_mem_filter mem)).2.1
  have sources : ((g.derivedOf entity).mapM fun d => do
      return ({ derived := d, tableAlias := js.tableAlias? d.path,
                source := ← sourceColumn? g s d } : Sourced)) =
      .ok ((g.derivedOf entity).map (sourcedBy g s js)) := by
    refine mapM_eq_ok fun d mem => ?_
    rw [sourceColumn?_eq compiled tables (List.mem_of_mem_filter mem)]
    rfl
  have named : g.entityName entity = g.entities[entity].name := by
    rw [Graph.entityName, List.getElem?_eq_getElem inGraph]
    rfl
  rw [ofEntity, Graph.entityAt_eq_ok inGraph, table, start, named]
  simp only [bind, Except.bind, own, paths]
  exact congrArg (Except.map _) sources

variable (table : (Schema.ofGraph g).tableOf entity = .ok t)

include table

theorem ofEntity_eq :
    let js := joinsAlong (Schema.ofGraph g) (joinPaths g (g.derivedOf entity))
    ofEntity g (Schema.ofGraph g) entity =
      .ok (((g.derivedOf entity).map (sourcedBy g (Schema.ofGraph g) js)).foldl addDerived
        (start g entity t js)) :=
by
  obtain ⟨tMem, rfl⟩ := Schema.of_tableOf table
  exact ofEntity_eq_foldl compiled (exists_tableOf compiled)
    (Mapping.tableSound_of_mem compiled tMem).1 table (storesIn_ofGraph compiled tMem)

theorem laid_ofEntity : ∃ v, ofEntity g (Schema.ofGraph g) entity = .ok v ∧
    Laid g (Schema.ofGraph g)
      (joinsAlong (Schema.ofGraph g) (joinPaths g (g.derivedOf entity))) entity t v := by
  refine ⟨_, ofEntity_eq compiled table, ?_⟩
  have joined := joinedAlong_joinPaths compiled entity
  generalize joinsAlong (Schema.ofGraph g) (joinPaths g (g.derivedOf entity)) = js at joined ⊢
  rw [List.foldl_map]
  refine List.foldlRecOn (motive := Laid g (Schema.ofGraph g) js entity t) _ _ ?_
    fun v laid d mem => laid.addDerived mem
  exact ⟨rfl, rfl, ⟨[], by simp [start], by simp⟩, by simp [start, joined.skipped]⟩

end Laying

/-! ## The rows of a view -/

/-- A derived attribute is found by its name. -/
theorem find?_derivedOf {doc : Document} {g : Graph} (compiled : Compiled doc g) {entity : Nat}
    {d : DerivedAttribute} (mem : d ∈ g.derivedOf entity) :
    (g.derivedOf entity).find? (·.name == d.name) = some d := by
  have keys : ((g.derivedOf entity).map (Name.key ·.name)).Nodup := by
    rw [compiled.derivedOf_eq]
    exact (Derivation.selectFree_keys _ _).1
  cases found : (g.derivedOf entity).find? (·.name == d.name) with
  | none => simpa using List.find?_eq_none.mp found d mem
  | some e =>
    have same : e.name = d.name := eq_of_beq (List.find?_some found :)
    rw [List.inj_on_of_nodup_map keys (List.mem_of_find?_eq_some found) mem (by rw [same])]

section Faithful

variable {doc : Document} {g : Graph} (compiled : Compiled doc g) {entity : Nat} {t : Table}
  {js : Joins} (joined : JoinedAlong g (joinPaths g (g.derivedOf entity)) js)

include compiled

/-- In a combination of rows that linked joins make, every column has the value it should have. -/
theorem Shows.value_eq {c : ViewColumn} (shows : Shows g (Schema.ofGraph g) js entity c)
    {V : Type} [DecidableEq V] {db : Contents V} {row : Row V} {rows : Combined V}
    (reached : ∀ path tableAlias, aliasIn js.joins path = some tableAlias →
      rows tableAlias = g.follow (Schema.ofGraph g) db path row) :
    rows c.tableAlias c.sourceColumn = meaning g (Schema.ofGraph g) db entity c row := by
  obtain ⟨d, mem, attr, -, -, aliased, source, stored, sourceColumn⟩ := shows.shown
  rw [meaning, if_pos shows.isDerived, attr, find?_derivedOf compiled mem, Option.bind_some,
    Graph.derivedValue, stored, Option.bind_some, sourceColumn, reached _ _ aliased]

include joined

theorem eval_eq {v : View} (laid : Laid g (Schema.ofGraph g) js entity t v) {V : Type}
    [DecidableEq V] {db : Contents V} (keyed : (Schema.ofGraph g).Keyed db) :
    v.eval db = (db t.name).map fun row =>
      v.columns.map fun c => (c.name, meaning g (Schema.ofGraph g) db entity c row) := by
  obtain ⟨extra, columns, shows⟩ := laid.columns
  rw [View.eval, laid.baseTable, laid.joins, Join.combine_flatMap, List.flatMap_map]
  have one (row : Row V) : (Join.combine db js.joins
      [Function.update (fun _ => Row.null) baseAlias row]).map (fun rows =>
        v.columns.map fun c => (c.name, rows c.tableAlias c.sourceColumn)) =
      [v.columns.map fun c => (c.name, meaning g (Schema.ofGraph g) db entity c row)] := by
    obtain ⟨rows, combined, reached⟩ := joined.linked.combine_eq compiled keyed row
    rw [combined, List.map_singleton]
    refine congrArg (fun l => [l]) (List.map_congr_left fun c mem => ?_)
    rw [columns] at mem
    rcases List.mem_append.mp mem with own | derived
    · obtain ⟨column, -, rfl⟩ := List.mem_map.mp own
      have base := reached [] baseAlias (aliasIn_nil js.joins)
      simp only [shownColumn, ownColumn, base]
      rfl
    · rw [(shows c derived).value_eq compiled reached]
  rw [List.map_flatMap, List.map_eq_flatMap]
  exact List.flatMap_congr fun row _ => one row

end Faithful

theorem faithful_ofEntity {doc : Document} {g : Graph} (compiled : Compiled doc g) {entity : Nat}
    {t : Table} {v : View} (laid : Laid g (Schema.ofGraph g)
      (joinsAlong (Schema.ofGraph g) (joinPaths g (g.derivedOf entity))) entity t v) :
    v.Faithful g (Schema.ofGraph g) entity t := by
  have joined := joinedAlong_joinPaths compiled entity
  generalize joinsAlong (Schema.ofGraph g) (joinPaths g (g.derivedOf entity)) = js at joined laid
  obtain ⟨extra, columns, shows⟩ := laid.columns
  have ownPlain (c : ViewColumn) (mem : c ∈ t.columns.map (shownColumn g)) :
      c.derived = false ∧ c.path = [] := by
    obtain ⟨column, -, rfl⟩ := List.mem_map.mp mem
    exact ⟨rfl, rfl⟩
  constructor
  · have kept : (t.columns.map (shownColumn g)).filter (!·.derived) = t.columns.map (shownColumn g) :=
      List.filter_eq_self.mpr fun c mem => by simp [(ownPlain c mem).1]
    have dropped : extra.filter (!·.derived) = [] :=
      List.filter_eq_nil_iff.mpr fun c mem => by simp [(shows c mem).isDerived]
    rw [columns, List.filter_append, kept, dropped, List.append_nil, List.map_map]
    rfl
  · intro c mem isDerived
    rw [columns] at mem
    rcases List.mem_append.mp mem with own | derived
    · simp [(ownPlain c own).1] at isDerived
    · obtain ⟨d, dMem, attr, path, name, -, source, stored, -⟩ := (shows c derived).shown
      exact ⟨d, dMem, attr, path, name, by simp [stored]⟩
  · intro c mem i iMem
    rw [columns] at mem
    rcases List.mem_append.mp mem with own | derived
    · simp [(ownPlain c own).2] at iMem
    · obtain ⟨d, dMem, -, path, -⟩ := (shows c derived).shown
      obtain ⟨-, last, chain, -⟩ := compiled.chain_of_mem_derived (List.mem_of_mem_filter dMem)
      obtain ⟨r, rMem, derivable, rfl⟩ := chain.exists_of_mem (path ▸ iMem)
      obtain ⟨k, u, keyFor, table, kMem, ⟨column, columnMem, named⟩, -⟩ :=
        Mapping.keyFor?_eq_some compiled rMem derivable
      refine ⟨r, k, u, compiled.relationship_getElem? rMem, keyFor, table, kMem, ?_⟩
      exact List.any_eq_true.mpr ⟨column, columnMem, by simp [named]⟩
  · exact laid.joined
  · intro V _ db keyed
    exact eval_eq compiled joined laid keyed

/-- The view of every entity of a compiled graph over its schema means what the paths of derivation
say. -/
theorem exists_faithful_of_compile {text : String} {g : Graph} (compiles : compile text = .ok g)
    {entity : Nat} (inGraph : entity < g.entities.length) :
    ∃ t v, (Schema.ofGraph g).tableOf entity = .ok t ∧
      ofEntity g (Schema.ofGraph g) entity = .ok v ∧ v.Faithful g (Schema.ofGraph g) entity t := by
  obtain ⟨doc, -, compiled⟩ := compiled_of_compile compiles
  obtain ⟨t, -, table, -⟩ := Mapping.tableOf_eq_ok compiled inGraph
  obtain ⟨v, viewed, laid⟩ := laid_ofEntity compiled table
  exact ⟨t, v, table, viewed, faithful_ofEntity compiled laid⟩

/-- A view with a join and a derived column. -/
theorem exists_faithful_joined : ∃ g,
    compile "**A**\n- A has a **B**.\n**B**\n- B has a c.\n" = .ok g ∧
      (0 < g.entities.length ∧ (g.derivedOf 0).map (·.path) = [[0]]) ∧
      ∃ t v, (Schema.ofGraph g).tableOf 0 = .ok t ∧ ofEntity g (Schema.ofGraph g) 0 = .ok v ∧
        (v.joins.map (fun j => (j.tableAlias, j.table, j.path)) = [("t1", "physical_b", [0])] ∧
          v.columns.map (fun c => (c.name, c.tableAlias, c.derived)) =
            [("a_id", "t0", false), ("b_id", "t0", false), ("b_c", "t1", true)]) ∧
        v.Faithful g (Schema.ofGraph g) 0 t := by
  have passes : compilesTo "**A**\n- A has a **B**.\n**B**\n- B has a c.\n" (fun g => decide (
      (0 < g.entities.length ∧ (g.derivedOf 0).map (·.path) = [[0]]) ∧
      (ofEntity g (Schema.ofGraph g) 0).toOption.map (fun v =>
          v.joins.map fun j => (j.tableAlias, j.table, j.path)) =
        some [("t1", "physical_b", [0])] ∧
      (ofEntity g (Schema.ofGraph g) 0).toOption.map (fun v =>
          v.columns.map fun c => (c.name, c.tableAlias, c.derived)) =
        some [("a_id", "t0", false), ("b_id", "t0", false), ("b_c", "t1", true)])) = true := by
    decide +kernel
  obtain ⟨g, compiles, shown⟩ := of_compilesTo passes
  obtain ⟨holds, joins, columns⟩ := of_decide_eq_true shown
  obtain ⟨t, v, table, viewed, faithful⟩ := exists_faithful_of_compile compiles holds.1
  rw [viewed] at joins columns
  exact ⟨g, compiles, holds, t, v, table, viewed,
    ⟨Option.some.inj joins, Option.some.inj columns⟩, faithful⟩

end View

end FactModel
