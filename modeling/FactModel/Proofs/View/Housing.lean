import FactModel.Proofs.Keyed
import FactModel.Proofs.Schema.Circles
import FactModel.Proofs.View.Meaning

/-!
# A table and a view for each entity

Schemas and views are kept under the names of tables and views, so that of two of one name only one
would stay.  Table names are settled one after the other, each among those before it, and view names
go with table names: no two are the same, and each entity has a table and a view of its own.
-/

namespace FactModel

/-- Each entity of a graph has a table and a view of its own.

* There is one table and one view for each entity, in the order of entities.
* No two tables and no two views have the same name, so that all of them are there when they are
  kept under their names.
* The table and the view of each entity are found, and the name of the view goes with that of the
  table.
* The name of a table is settled among those of the tables before it: it is the plain one just where
  no earlier entity has a table of that name. -/
structure Graph.Housed (g : Graph) (s : Schema) (views : List View) : Prop where
  tablesInOrder : s.tables.map (·.entity) = g.entities.map (·.index)
  viewsInOrder : views.map (·.entity) = g.entities.map (·.index)
  tableNames : (s.tables.map (·.name)).Nodup
  viewNames : (views.map (·.name)).Nodup
  tablesKept : Keyed.ofList (s.tables.map fun t => (t.name, t)) = s.tables.map fun t => (t.name, t)
  viewsKept : Keyed.ofList (views.map fun v => (v.name, v)) = views.map fun v => (v.name, v)
  found : ∀ e ∈ g.entities, ∃ t ∈ s.tables, ∃ v ∈ views, s.tableOf e.index = .ok t ∧
    views.find? (·.entity == e.index) = some v ∧ t.entity = e.index ∧ v.entity = e.index ∧
    v.baseTable = t.name ∧ v.name = View.viewName t.name
  settled : ∀ e ∈ g.entities, ∀ t, s.tableOf e.index = .ok t →
    Mapping.Settles ((s.tables.take e.index).map (·.name)) (Mapping.tableName e.name) t.name
  plain : ∀ e ∈ g.entities, ∀ t, s.tableOf e.index = .ok t →
    (t.name = Mapping.tableName e.name ↔ ∀ f ∈ g.entities, f.index < e.index →
      ∀ u, s.tableOf f.index = .ok u → u.name ≠ Mapping.tableName e.name)

namespace Mapping

section

variable {doc : Document} {g : Graph} (compiled : Compiled doc g)

include compiled

theorem map_name_tables : (Schema.ofGraph g).tables.map (·.name) = tableNames g := by
  refine List.ext_getElem? fun i => ?_
  have mapped := mapped_ofGraph compiled
  rw [List.getElem?_map]
  cases found : (Schema.ofGraph g).tables[i]? with
  | none =>
    have beyond := List.getElem?_eq_none_iff.mp found
    rw [mapped.length] at beyond
    rw [Option.map_none, List.getElem?_eq_none]
    rwa [tableNames, length_namesFrom]
  | some t =>
    obtain ⟨bound, -⟩ := List.getElem?_eq_some_iff.mp found
    rw [mapped.length, ← length_namesFrom [] g.entities, ← tableNames] at bound
    rw [Option.map_some, (mapped.sound i t found).named, nameOf, List.getElem?_eq_getElem bound,
      Option.getD_some]

/-- The name of a table is settled among the names of the tables before it. -/
theorem settles_of_tableOf {e : Entity} (mem : e ∈ g.entities) {t : Table}
    (table : (Schema.ofGraph g).tableOf e.index = .ok t) :
    Settles (((Schema.ofGraph g).tables.take e.index).map (·.name)) (tableName e.name) t.name := by
  obtain ⟨tMem, owner⟩ := Schema.of_tableOf table
  have named : (tableNames g)[e.index]? = some t.name := by
    rw [← map_name_tables compiled, List.getElem?_map, ← owner,
      (tables_indexed compiled).getElem? tMem, Option.map_some]
  have inGraph : g.entities[e.index]? = some e :=
    compiled.wellFormed.placed.entityIndex.getElem? mem
  have settles := settles_of_getElem? inGraph named
  rwa [List.append_nil, ← tableNames, ← map_name_tables compiled, ← List.map_take] at settles

/-- The names before a table are those of the tables of earlier entities. -/
theorem mem_map_take_iff {e : Entity} (mem : e ∈ g.entities) {name : String} :
    name ∈ ((Schema.ofGraph g).tables.take e.index).map (·.name) ↔ ∃ f ∈ g.entities,
      f.index < e.index ∧ ∃ u, (Schema.ofGraph g).tableOf f.index = .ok u ∧ u.name = name := by
  have indexed := tables_indexed compiled
  have entityIndex : Arena.Indexed Entity.index g.entities :=
    compiled.wellFormed.placed.entityIndex
  simp only [List.mem_map, List.mem_take_iff_getElem]
  constructor
  · rintro ⟨u, ⟨i, bound, rfl⟩, rfl⟩
    have inGraph : i < g.entities.length := by
      have := entityIndex.lt_length mem
      omega
    have atPlace := entityIndex i _ (List.getElem?_eq_getElem inGraph)
    obtain ⟨u, uMem, table, sound, -⟩ := tableOf_eq_ok compiled inGraph
    have same : (Schema.ofGraph g).tables[i] = u :=
      indexed.eq_of_index (List.getElem_mem _) uMem
        ((indexed i _ (List.getElem?_eq_getElem _)).trans sound.owner.symm)
    exact ⟨g.entities[i], List.getElem_mem inGraph, by omega, u, by rwa [atPlace], by rw [same]⟩
  · rintro ⟨f, -, earlier, u, table, rfl⟩
    obtain ⟨uMem, owner⟩ := Schema.of_tableOf table
    obtain ⟨bound, found⟩ := List.getElem?_eq_some_iff.mp (indexed.getElem? uMem)
    exact ⟨u, ⟨u.entity, by omega, found⟩, rfl⟩

/-- Table names are plain. -/
theorem isPlain_name {t : Table} (mem : t ∈ (Schema.ofGraph g).tables) : Name.IsPlain t.name := by
  obtain ⟨bound, sound⟩ := tableSound_of_mem compiled mem
  have atPlace := compiled.wellFormed.placed.entityIndex _ _ (List.getElem?_eq_getElem bound)
  obtain ⟨u, -, table, -, only⟩ := tableOf_eq_ok compiled bound
  rw [← only t mem rfl, ← atPlace] at table
  exact (settles_of_tableOf compiled (List.getElem_mem bound) table).isPlain
    (Name.IsPlain.append (by decide) (Name.isPlain_identifier _))

theorem exists_name_eq_append {t : Table} (mem : t ∈ (Schema.ofGraph g).tables) :
    ∃ rest : String, t.name = tableStart ++ rest := by
  obtain ⟨bound, sound⟩ := tableSound_of_mem compiled mem
  have atPlace := compiled.wellFormed.placed.entityIndex _ _ (List.getElem?_eq_getElem bound)
  obtain ⟨u, -, table, -, only⟩ := tableOf_eq_ok compiled bound
  rw [← only t mem rfl, ← atPlace] at table
  have settles := settles_of_tableOf compiled (List.getElem_mem bound) table
  obtain ⟨behind, settled⟩ := settles.exists_append
  exact ⟨_, settled.trans (String.append_assoc ..)⟩

end

end Mapping

namespace View

open Mapping

/-! ## Names of views -/

theorem stem_append (rest : String) : stem (tableStart ++ rest) = rest := by
  unfold stem
  rw [String.toList_append, if_pos (List.isPrefixOf_iff_prefix.mpr (List.prefix_append _ _)),
    List.drop_left, String.ofList_toList]

/-- Different tables have names of different stems. -/
theorem eq_of_stem {doc : Document} {g : Graph} (compiled : Compiled doc g) {t u : Table}
    (tMem : t ∈ (Schema.ofGraph g).tables) (uMem : u ∈ (Schema.ofGraph g).tables)
    (same : stem t.name = stem u.name) : t = u := by
  obtain ⟨tRest, tName⟩ := exists_name_eq_append compiled tMem
  obtain ⟨uRest, uName⟩ := exists_name_eq_append compiled uMem
  rw [tName, uName, stem_append, stem_append] at same
  exact List.inj_on_of_nodup_map (names_nodup compiled) tMem uMem (by rw [tName, uName, same])

/-- The name of a view goes with that of the table it starts from. -/
theorem names_of_ofEntity {g : Graph} {s : Schema} {entity : Nat} {v : View}
    (viewed : ofEntity g s entity = .ok v) : ∃ t, s.tableOf entity = .ok t ∧ v.entity = entity ∧
      v.name = viewName t.name := by
  obtain ⟨e, -, viewed⟩ := of_bind_eq_ok viewed
  obtain ⟨t, table, viewed⟩ := of_bind_eq_ok viewed
  obtain ⟨own, -, viewed⟩ := of_bind_eq_ok viewed
  obtain ⟨⟨⟩, -, viewed⟩ := of_bind_eq_ok viewed
  obtain ⟨sourced, -, viewed⟩ := of_bind_eq_ok viewed
  obtain rfl := Except.ok.inj viewed
  refine ⟨t, table, List.foldlRecOn (motive := fun v : View => v.entity = entity ∧
    v.name = viewName t.name) _ _ ⟨rfl, rfl⟩ fun v same d _ => ?_⟩
  obtain ⟨columns, hidden, notes, adds⟩ := addDerived_eq v d
  rwa [adds]

/-- View names are plain, and what they begin with is that of all views. -/
theorem isPlain_name_of_ofEntity {doc : Document} {g : Graph} (compiled : Compiled doc g)
    {entity : Nat} {v : View} (viewed : ofEntity g (Schema.ofGraph g) entity = .ok v) :
    Name.IsPlain v.name ∧ ∃ rest, v.name = viewStart ++ rest := by
  obtain ⟨t, table, -, named⟩ := names_of_ofEntity viewed
  obtain ⟨tMem, -⟩ := Schema.of_tableOf table
  obtain ⟨rest, tName⟩ := exists_name_eq_append compiled tMem
  rw [named, viewName, tName, stem_append]
  refine ⟨Name.IsPlain.append_chars (by decide) (by decide) fun c mem => ?_, rest, rfl⟩
  have plain := isPlain_name compiled tMem
  exact plain.chars c (by rw [tName, String.toList_append]; exact List.mem_append_right _ mem)

/-- There is one view for each entity, in the order of entities. -/
theorem map_entity_all {g : Graph} {s : Schema} {views : List View} (laid : all g s = .ok views) :
    views.map (·.entity) = g.entities.map (·.index) := by
  have same : List.Forall₂ Eq (g.entities.map (·.index)) (views.map (·.entity)) := by
    rw [List.forall₂_map_left_iff, List.forall₂_map_right_iff]
    refine (forall₂_of_mapM_eq_ok laid).imp fun e v viewed => ?_
    obtain ⟨-, -, entity, -⟩ := names_of_ofEntity viewed
    exact entity.symm
  rw [List.forall₂_eq_eq_eq] at same
  exact same.symm

section

variable {doc : Document} {g : Graph} (compiled : Compiled doc g) {views : List View}
  (laid : all g (Schema.ofGraph g) = .ok views)

include compiled laid

theorem entities_nodup : (views.map (·.entity)).Nodup := by
  rw [map_entity_all laid]
  exact compiled.wellFormed.placed.entityIndex.nodup_map

/-- The view of an entity is found. -/
theorem find?_entity {e : Entity} (mem : e ∈ g.entities) {v : View}
    (viewed : ofEntity g (Schema.ofGraph g) e.index = .ok v) :
    v ∈ views ∧ views.find? (·.entity == e.index) = some v := by
  have vMem : v ∈ views := (mem_of_mapM_eq_ok laid).mpr ⟨e, mem, viewed⟩
  obtain ⟨-, -, entity, -⟩ := names_of_ofEntity viewed
  exact ⟨vMem, find?_of_nodup_map (entities_nodup compiled laid) vMem entity⟩

theorem viewNames_nodup : (views.map (·.name)).Nodup := by
  have entities := entities_nodup compiled laid
  refine List.Nodup.map_on (fun v vMem w wMem same => ?_) (List.Nodup.of_map _ entities)
  obtain ⟨e, -, vViewed⟩ := (mem_of_mapM_eq_ok laid).mp vMem
  obtain ⟨f, -, wViewed⟩ := (mem_of_mapM_eq_ok laid).mp wMem
  obtain ⟨t, vTable, vEntity, vName⟩ := names_of_ofEntity vViewed
  obtain ⟨u, wTable, wEntity, wName⟩ := names_of_ofEntity wViewed
  obtain ⟨tMem, tOwner⟩ := Schema.of_tableOf vTable
  obtain ⟨uMem, uOwner⟩ := Schema.of_tableOf wTable
  rw [vName, wName, viewName, viewName] at same
  obtain rfl := eq_of_stem compiled tMem uMem ((String.append_right_inj viewStart).mp same)
  refine List.inj_on_of_nodup_map entities vMem wMem ?_
  rw [vEntity, wEntity, ← tOwner, uOwner]

end

end View

/-- No table and no view of a compiled graph is lost to a clash of names. -/
theorem Graph.housed_of_compile {text : String} {g : Graph} (compiles : compile text = .ok g) :
    ∃ views, View.all g (Schema.ofGraph g) = .ok views ∧ g.Housed (Schema.ofGraph g) views := by
  obtain ⟨doc, -, compiled⟩ := compiled_of_compile compiles
  have entityIndex : Arena.Indexed Entity.index g.entities :=
    compiled.wellFormed.placed.entityIndex
  have viewable (e : Entity) (mem : e ∈ g.entities) :
      ∃ t v, (Schema.ofGraph g).tableOf e.index = .ok t ∧
        View.ofEntity g (Schema.ofGraph g) e.index = .ok v ∧ v.baseTable = t.name := by
    obtain ⟨t, -, table, -⟩ := Mapping.tableOf_eq_ok compiled (entityIndex.lt_length mem)
    obtain ⟨v, viewed, laid⟩ := View.laid_ofEntity compiled table
    exact ⟨t, v, table, viewed, laid.baseTable⟩
  obtain ⟨views, laid⟩ : ∃ views, View.all g (Schema.ofGraph g) = .ok views :=
    exists_mapM_eq_ok fun e mem => by
      obtain ⟨-, v, -, viewed, -⟩ := viewable e mem
      exact ⟨v, viewed⟩
  have tableNames := Mapping.names_nodup compiled
  have viewNames := View.viewNames_nodup compiled laid
  refine ⟨views, laid, ?_, View.map_entity_all laid, tableNames, viewNames, ?_, ?_, ?_, ?_, ?_⟩
  · rw [(Mapping.tables_indexed compiled).map_eq_range, entityIndex.map_eq_range,
      (Mapping.mapped_ofGraph compiled).length]
  · exact Keyed.ofList_eq_self (by simpa [List.map_map, Function.comp_def] using tableNames)
  · exact Keyed.ofList_eq_self (by simpa [List.map_map, Function.comp_def] using viewNames)
  · intro e mem
    obtain ⟨t, v, table, viewed, baseTable⟩ := viewable e mem
    obtain ⟨tMem, owner⟩ := Schema.of_tableOf table
    obtain ⟨vMem, found⟩ := View.find?_entity compiled laid mem viewed
    obtain ⟨u, sameTable, entity, name⟩ := View.names_of_ofEntity viewed
    obtain rfl := Except.ok.inj (table.symm.trans sameTable)
    exact ⟨t, tMem, v, vMem, table, found, owner, entity, baseTable, name⟩
  · intro e mem t table
    exact Mapping.settles_of_tableOf compiled mem table
  · intro e mem t table
    rw [(Mapping.settles_of_tableOf compiled mem table).eq_iff,
      Mapping.mem_map_take_iff compiled mem]
    push Not
    rfl

/-- The number that a clash gives to one table takes the plain name of another one. -/
theorem Graph.housed_where_numbers_clash : ∃ g,
    compile "**Order Line**\n**OrderLine**\n**Order Line 2**\n" = .ok g ∧
      (Schema.ofGraph g).tables.map (·.name) =
        ["physical_order_line", "physical_order_line_2", "physical_order_line_2_2"] ∧
      ∃ views, View.all g (Schema.ofGraph g) = .ok views ∧ g.Housed (Schema.ofGraph g) views := by
  have passes : compilesTo "**Order Line**\n**OrderLine**\n**Order Line 2**\n" (fun g =>
      decide ((Schema.ofGraph g).tables.map (·.name) =
        ["physical_order_line", "physical_order_line_2", "physical_order_line_2_2"])) = true := by
    decide +kernel
  obtain ⟨g, compiles, names⟩ := of_compilesTo passes
  exact ⟨g, compiles, of_decide_eq_true names, Graph.housed_of_compile compiles⟩

end FactModel
