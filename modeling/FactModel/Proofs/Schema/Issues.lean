import FactModel.Issue
import FactModel.Proofs.Schema.Origins
import FactModel.Proofs.View.Lookup

/-!
# What it means that there are no issues

A mapping without issues has given way in one place at most: a foreign key may sit on the column of
a primary key, which then stores an identifier or has another type than the key refers to.  The main
statement says that, this place apart, there are no issues just when nothing gave way.
-/

namespace FactModel

/-! ## Nothing gave way -/

namespace Schema

/-- A column suits a foreign key on it.  It has the type of the primary key that the foreign key
refers to, and it stores nothing, or the reference attribute for the relationship that the foreign
key was made for. -/
structure Suits (g : Graph) (s : Schema) (k : ForeignKey) (c : Column) : Prop where
  typed : ∃ u ∈ s.tables, u.name = k.refTable ∧ ∃ b ∈ u.columns, b.role = .primaryKey ∧
    b.name = k.refColumn ∧ b.type = c.type
  stores : ∀ i, c.attr = some i → ∃ r ∈ g.relationships, r.index = k.relationship ∧
    r.derivable = true ∧ ∃ a ∈ g.attributesOf r.source, a.index = i ∧ a.references = some r.target

/-- Nothing gave way when a graph was mapped to a schema.

* Every table has the plain name of its entity.
* Every attribute that is no reference has a column.
* Every derived attribute has a column in the view of its entity.
* No two foreign keys of a table sit on one column.
* A foreign key sits on a column, and whatever column has that name suits it. -/
structure Straight (g : Graph) (s : Schema) : Prop where
  named : ∀ e ∈ g.entities, ∃ t, s.tableOf e.index = .ok t ∧ t.name = Mapping.tableName e.name
  stored : ∀ e ∈ g.entities, ∃ t, s.tableOf e.index = .ok t ∧
    ∀ a ∈ g.attributesOf e.index, a.type ≠ .reference → (t.columnFor? a.index).isSome = true
  shown : ∀ e ∈ g.entities, ∃ v, View.ofEntity g s e.index = .ok v ∧
    ∀ d ∈ g.derivedOf e.index, ∃ c ∈ v.columns, c.derived = true ∧ c.attr = d.name ∧ c.path = d.path
  alone : ∀ t ∈ s.tables, (t.foreignKeys.map (·.column)).Nodup
  placed : ∀ t ∈ s.tables, ∀ k ∈ t.foreignKeys, ∃ c ∈ t.columns, c.name = k.column
  suited : ∀ t ∈ s.tables, ∀ k ∈ t.foreignKeys, ∀ c ∈ t.columns, c.name = k.column → s.Suits g k c

end Schema

/-! ## Where there are no issues -/

namespace Issue

theorem ofName_eq_nil_iff {e : Entity} {t : Table} :
    ofName e t = [] ↔ t.name = Mapping.tableName e.name := by
  unfold ofName
  extract_lets wanted
  split <;> simp_all [wanted]

theorem ofAttributes_eq_nil_iff {g : Graph} {e : Entity} {t : Table} : ofAttributes g e t = [] ↔
    ∀ a ∈ g.attributesOf e.index, a.type ≠ .reference → a.identifying = false →
      (t.columnFor? a.index).isSome = true := by
  rw [ofAttributes, List.map_eq_nil_iff, List.filter_eq_nil_iff]
  refine forall₂_congr fun a _ => ?_
  cases t.columnFor? a.index <;> simp

theorem ofKeys_eq_nil_iff {g : Graph} {t : Table}
    (arranged : Mapping.Arranged g t.entity t.columns t.foreignKeys) : ofKeys t = [] ↔
      ∀ k ∈ t.foreignKeys, ∀ c ∈ t.columns, c.name = k.column → c.role ≠ .plain := by
  rw [ofKeys, List.map_eq_nil_iff, List.filter_eq_nil_iff]
  refine forall₂_congr fun k _ => ?_
  constructor
  · intro clean c mem name plain
    rw [← name, arranged.column?_eq mem plain] at clean
    simp [plain] at clean
  · intro clean flagged
    obtain ⟨c, found, plain⟩ : ∃ c, t.column? k.column = some c ∧ c.role = .plain := by
      simpa [Option.any_eq_true] using flagged
    exact clean c (List.mem_of_find?_eq_some found) (eq_of_beq (List.find?_some found :)) plain

theorem ofSharing_eq_nil_iff {t : Table} :
    ofSharing t = [] ↔ (t.foreignKeys.map (·.column)).Nodup := by
  -- Only columns with keys on them are looked at; any other name counts none.
  rw [ofSharing, List.filterMap_eq_nil_iff, List.nodup_iff_count_le_one]
  have count_eq (column : String) : (t.foreignKeys.map (·.column)).count column =
      ((t.foreignKeys.filter (·.column == column)).map (·.relationship)).length := by
    rw [List.count, List.countP_map, List.countP_eq_length_filter, List.length_map]
    rfl
  constructor
  · intro clean column
    by_cases there : column ∈ t.foreignKeys.map (·.column)
    · have := clean column (List.mem_eraseDups.mpr there)
      simp only [ite_eq_right_iff, reduceCtorEq, imp_false, Nat.not_lt] at this
      rw [count_eq]
      exact this
    · rw [List.count_eq_zero_of_not_mem there]
      exact Nat.zero_le 1
  · intro alone column _
    have := alone column
    rw [count_eq] at this
    simp only [ite_eq_right_iff, reduceCtorEq, imp_false, Nat.not_lt]
    exact this

theorem ofTable_eq_nil_iff {g : Graph} {s : Schema} {e : Entity} :
    (∃ found, ofTable g s e = .ok found ∧ found = []) ↔
      ∃ t, s.tableOf e.index = .ok t ∧ ofName e t = [] ∧ ofAttributes g e t = [] ∧
        ofKeys t = [] ∧ ofSharing t = [] := by
  unfold ofTable
  cases s.tableOf e.index with
  | error missing => simp [bind, Except.bind]
  | ok t => simp [bind, Except.bind, pure, Except.pure]

/-- There are no issues just when no table and no view has any. -/
theorem all_eq_nil_iff {g : Graph} {s : Schema} : all g s = .ok [] ↔
    (∀ e ∈ g.entities, ∃ t, s.tableOf e.index = .ok t ∧ ofName e t = [] ∧
      ofAttributes g e t = [] ∧ ofKeys t = [] ∧ ofSharing t = []) ∧
    ∀ e ∈ g.entities, ∃ v, View.ofEntity g s e.index = .ok v ∧ v.notes = [] := by
  simp only [← ofTable_eq_nil_iff]
  rw [← exists_mapM_eq_ok_iff, ← exists_mapM_eq_ok_iff, all, View.all]
  cases g.entities.mapM (ofTable g s) <;>
    cases g.entities.mapM fun e => View.ofEntity g s e.index <;>
      simp [bind, Except.bind, pure, Except.pure]

end Issue

/-! ## Notes of a view -/

namespace View

/-- There is a note for each attribute that is hidden. -/
theorem length_notes_addDerived (v : View) (d : Sourced) :
    (v.addDerived d).notes.length + v.hidden.length =
      v.notes.length + (v.addDerived d).hidden.length := by
  unfold addDerived
  split
  · extract_lets name
    split
    · simp only [List.length_append, List.length_singleton]
      omega
    · rfl
  · simp only [List.length_append, List.length_singleton]
    omega

section Notes

variable {doc : Document} {g : Graph} (compiled : Compiled doc g) {entity : Nat} {t : Table}
  (table : (Schema.ofGraph g).tableOf entity = .ok t) {v : View}
  (viewed : ofEntity g (Schema.ofGraph g) entity = .ok v)

include compiled table viewed

theorem length_notes_ofEntity : v.notes.length = v.hidden.length := by
  obtain rfl := Except.ok.inj ((ofEntity_eq compiled table).symm.trans viewed)
  refine List.foldlRecOn (motive := fun v : View => v.notes.length = v.hidden.length) _ _ ?_
    fun v same d _ => ?_
  · simp [start, (joinedAlong_joinPaths compiled entity).skipped]
  · have := length_notes_addDerived v d
    omega

/-- A view has no notes just when it shows every derived attribute. -/
theorem notes_eq_nil_iff : v.notes = [] ↔ ∀ d ∈ g.derivedOf entity,
    ∃ c ∈ v.columns, c.derived = true ∧ c.attr = d.name ∧ c.path = d.path := by
  have hidden : v.notes = [] ↔ v.hidden = [] := by
    rw [← List.length_eq_zero_iff, length_notes_ofEntity compiled table viewed,
      List.length_eq_zero_iff]
  have shared := shown_ofEntity compiled table viewed
  rw [hidden]
  constructor
  · intro none d mem
    have isShown : d.name ∈ v.shown := by
      by_contra notShown
      have there := (mem_hidden_iff compiled table viewed mem).mpr notShown
      rw [none] at there
      contradiction
    obtain ⟨c, cMem, attr⟩ := List.mem_map.mp isShown
    obtain ⟨cMem, isDerived⟩ := List.mem_filter.mp cMem
    obtain ⟨e, eMem, eAttr, path, -⟩ :=
      (faithful_ofEntity compiled (laid_of_ofEntity compiled table viewed)).derived c cMem isDerived
    have found := find?_derivedOf compiled eMem
    rw [← eAttr, attr, find?_derivedOf compiled mem] at found
    exact ⟨c, cMem, isDerived, attr, by rw [path, Option.some.inj found]⟩
  · intro shows
    rw [List.eq_nil_iff_forall_not_mem]
    intro name there
    obtain ⟨d, mem, rfl⟩ := List.mem_map.mp (shared.mem_iff.mp (List.mem_append_right _ there))
    obtain ⟨c, cMem, isDerived, attr, -⟩ := shows d mem
    refine (mem_hidden_iff compiled table viewed mem).mp there ?_
    exact attr ▸ List.mem_map_of_mem (List.mem_filter.mpr ⟨cMem, isDerived⟩)

end Notes

end View
/-! ## Foreign keys and the columns that they sit on -/

namespace Mapping

section Compiled

variable {doc : Document} {g : Graph} (compiled : Compiled doc g)

include compiled

/-- An attribute that identifies an entity has a column. -/
theorem columnFor?_isSome_of_identifying {entity : Nat} {t : Table} (sound : TableSound g entity t)
    {a : Attribute} (mem : a ∈ g.attributesOf entity) (identifies : a.identifying = true) :
    (t.columnFor? a.index).isSome = true := by
  rw [Table.columnFor?, List.find?_isSome]
  refine ⟨primaryKey g entity, sound.stored, ?_⟩
  simp [primaryKey, identifier?_eq_some compiled mem identifies]

/-- The column that was made for a foreign key suits it. -/
theorem MadeFor.suits {entity : Nat} {columns : List Column} {k : ForeignKey} {c : Column}
    (made : MadeFor g k c) (sound : KeySound g entity columns k) :
    (Schema.ofGraph g).Suits g k c := by
  obtain ⟨r, mem, index, type, stores⟩ := made.made
  obtain ⟨s, sMem, -, sIndex, refTable, refColumn⟩ := sound.made
  obtain rfl := compiled.eq_of_index mem sMem (index.trans sIndex)
  obtain ⟨u, uMem, -, uSound, -⟩ := tableOf_eq_ok compiled (referred_lt compiled mem)
  refine ⟨⟨u, uMem, uSound.named.trans refTable.symm, primaryKey g r.referred, uSound.stored,
    role_primaryKey g r.referred, refColumn.symm, type.symm⟩, fun i stored => ?_⟩
  exact ⟨r, mem, index, stores i stored⟩

/-- The column of a plain attribute suits no foreign key. -/
theorem not_suits_of_plain {entity : Nat} {keys : List ForeignKey} {k : ForeignKey} {c : Column}
    (origin : Origin g entity keys c) (plain : c.role = .plain) :
    ¬(Schema.ofGraph g).Suits g k c := by
  intro suits
  cases origin with
  | primary same => simp [same, role_primaryKey] at plain
  | key _ _ made => simp [made.role] at plain
  | plain _ a mem stores references =>
    obtain ⟨r, -, -, -, b, bMem, index, target⟩ := suits.stores a.index stores
    have same := compiled.wellFormed.placed.attributeIndex.eq_of_index
      (compiled.mem_attributesOf.mp bMem).1 (compiled.mem_attributesOf.mp mem).1 index
    simp [same, references] at target

/-- When no two foreign keys of a table sit on one column, and none on that of a plain attribute,
then each column suits the foreign key on it, unless it is that of the primary key. -/
theorem suits_of_alone {t : Table} (mem : t ∈ (Schema.ofGraph g).tables)
    (alone : (t.foreignKeys.map (·.column)).Nodup) {k : ForeignKey} (kMem : k ∈ t.foreignKeys)
    {c : Column} (cMem : c ∈ t.columns) (name : c.name = k.column) (plain : c.role ≠ .plain)
    (primary : c.role ≠ .primaryKey) : (Schema.ofGraph g).Suits g k c := by
  cases (arranged_of_mem compiled mem).origin c cMem with
  | primary same => exact absurd (same ▸ role_primaryKey g t.entity) primary
  | plain role => exact absurd role plain
  | key made madeMem madeFor =>
    obtain rfl := List.inj_on_of_nodup_map alone madeMem kMem (madeFor.name.trans name)
    exact madeFor.suits compiled ((tableSound_of_mem compiled mem).2.keys made kMem)

end Compiled

end Mapping

/-! ## Nothing gave way when there are no issues -/

namespace Schema

section Compiled

variable {doc : Document} {g : Graph} (compiled : Compiled doc g)

include compiled

theorem Straight.issues_eq_nil (straight : (Schema.ofGraph g).Straight g) :
    Issue.all g (Schema.ofGraph g) = .ok [] := by
  refine Issue.all_eq_nil_iff.mpr ⟨fun e mem => ?_, fun e mem => ?_⟩
  · obtain ⟨t, table, named⟩ := straight.named e mem
    obtain ⟨u, table', stored⟩ := straight.stored e mem
    obtain rfl := Except.ok.inj (table.symm.trans table')
    have tMem := (of_tableOf table).1
    have arranged := Mapping.arranged_of_mem compiled tMem
    refine ⟨t, table, Issue.ofName_eq_nil_iff.mpr named,
      Issue.ofAttributes_eq_nil_iff.mpr fun a aMem type _ => stored a aMem type,
      (Issue.ofKeys_eq_nil_iff arranged).mpr fun k kMem c cMem name plain => ?_,
      Issue.ofSharing_eq_nil_iff.mpr (straight.alone t tMem)⟩
    exact Mapping.not_suits_of_plain compiled (arranged.origin c cMem) plain
      (straight.suited t tMem k kMem c cMem name)
  · obtain ⟨t, table, -⟩ := straight.named e mem
    obtain ⟨v, viewed, shows⟩ := straight.shown e mem
    exact ⟨v, viewed, (View.notes_eq_nil_iff compiled table viewed).mpr shows⟩

theorem straight_of_issues_eq_nil (clean : Issue.all g (Schema.ofGraph g) = .ok [])
    (suited : ∀ t ∈ (Schema.ofGraph g).tables, ∀ k ∈ t.foreignKeys, ∀ c ∈ t.columns,
      c.role = .primaryKey → c.name = k.column → (Schema.ofGraph g).Suits g k c) :
    (Schema.ofGraph g).Straight g := by
  obtain ⟨tables, views⟩ := Issue.all_eq_nil_iff.mp clean
  -- The issues of a table that is one of the schema are those of the entity it is for.
  have ofEntity {t : Table} (mem : t ∈ (Schema.ofGraph g).tables) :
      Issue.ofKeys t = [] ∧ Issue.ofSharing t = [] := by
    have bound := (Mapping.tableSound_of_mem compiled mem).1
    obtain ⟨u, -, table, -, only⟩ := Mapping.tableOf_eq_ok compiled bound
    obtain rfl := only t mem rfl
    have index := compiled.wellFormed.placed.entityIndex t.entity _ (List.getElem?_eq_getElem bound)
    obtain ⟨v, table', -, -, keys, sharing⟩ := tables _ (List.getElem_mem bound)
    rw [index] at table'
    obtain rfl := Except.ok.inj (table.symm.trans table')
    exact ⟨keys, sharing⟩
  constructor
  · intro e mem
    obtain ⟨t, table, named, -⟩ := tables e mem
    exact ⟨t, table, Issue.ofName_eq_nil_iff.mp named⟩
  · intro e mem
    obtain ⟨t, table, -, attributes, -⟩ := tables e mem
    refine ⟨t, table, fun a aMem type => ?_⟩
    cases identifies : a.identifying with
    | false => exact Issue.ofAttributes_eq_nil_iff.mp attributes a aMem type identifies
    | true =>
      obtain ⟨tMem, owner⟩ := of_tableOf table
      have sound := (Mapping.tableSound_of_mem compiled tMem).2
      rw [owner] at sound
      exact Mapping.columnFor?_isSome_of_identifying compiled sound aMem identifies
  · intro e mem
    obtain ⟨t, table, -⟩ := tables e mem
    obtain ⟨v, viewed, silent⟩ := views e mem
    exact ⟨v, viewed, (View.notes_eq_nil_iff compiled table viewed).mp silent⟩
  · exact fun t mem => Issue.ofSharing_eq_nil_iff.mp (ofEntity mem).2
  · exact fun t mem k kMem => ((Mapping.tableSound_of_mem compiled mem).2.keys k kMem).column
  · intro t mem k kMem c cMem name
    obtain ⟨keys, sharing⟩ := ofEntity mem
    have plain := (Issue.ofKeys_eq_nil_iff (Mapping.arranged_of_mem compiled mem)).mp keys
      k kMem c cMem name
    by_cases primary : c.role = .primaryKey
    · exact suited t mem k kMem c cMem primary name
    · exact Mapping.suits_of_alone compiled mem (Issue.ofSharing_eq_nil_iff.mp sharing) kMem cMem
        name plain primary

end Compiled

/-- Nothing gave way when a compiled graph was mapped just when there are no issues, and the column
of a primary key suits the foreign keys that sit on it. -/
theorem straight_iff_of_compile {text : String} {g : Graph} (compiles : compile text = .ok g) :
    (Schema.ofGraph g).Straight g ↔ Issue.all g (Schema.ofGraph g) = .ok [] ∧
      ∀ t ∈ (Schema.ofGraph g).tables, ∀ k ∈ t.foreignKeys, ∀ c ∈ t.columns,
        c.role = .primaryKey → c.name = k.column → (Schema.ofGraph g).Suits g k c := by
  obtain ⟨doc, -, compiled⟩ := compiled_of_compile compiles
  constructor
  · intro straight
    exact ⟨straight.issues_eq_nil compiled,
      fun t mem k kMem c cMem _ name => straight.suited t mem k kMem c cMem name⟩
  · rintro ⟨clean, suited⟩
    exact straight_of_issues_eq_nil compiled clean suited

/-- A graph is mapped straight when its foreign keys stand apart from the primary keys. -/
theorem straight_where_keys_stand_apart : ∃ g,
    compile "**A**\n- A has a **B**.\n**B**\n- B has a c.\n" = .ok g ∧
      ((Schema.ofGraph g).tables.flatMap (·.foreignKeys)).map (·.column) = ["b_id"] ∧
      (Schema.ofGraph g).Straight g := by
  have passes : compilesTo "**A**\n- A has a **B**.\n**B**\n- B has a c.\n" (fun g =>
      decide (((Schema.ofGraph g).tables.flatMap (·.foreignKeys)).map (·.column) = ["b_id"] ∧
        Issue.all g (Schema.ofGraph g) = .ok [] ∧
        ∀ t ∈ (Schema.ofGraph g).tables, ∀ k ∈ t.foreignKeys, ∀ c ∈ t.columns,
          c.role = .primaryKey → c.name ≠ k.column)) = true := by
    decide +kernel
  obtain ⟨g, compiles, shown⟩ := of_compilesTo passes
  obtain ⟨keys, clean, apart⟩ := of_decide_eq_true shown
  refine ⟨g, compiles, keys, (straight_iff_of_compile compiles).mpr ⟨clean, ?_⟩⟩
  exact fun t mem k kMem c cMem primary name => absurd name (apart t mem k kMem c cMem primary)

/-- Without issues something may have given way: a foreign key sits on the column of an identifier,
which stands for another attribute. -/
theorem not_straight_of_no_issues : ¬∀ text g, compile text = .ok g →
    Issue.all g (Schema.ofGraph g) = .ok [] → (Schema.ofGraph g).Straight g := by
  intro all
  have passes : compilesTo
      "**B**\n**A**\n- A is identified by its B Id (Number).\n- A has a **B**.\n"
      (fun g => decide (Issue.all g (Schema.ofGraph g) = .ok [] ∧
        (∃ t ∈ (Schema.ofGraph g).tables, ∃ k ∈ t.foreignKeys, ∃ c ∈ t.columns,
          c.name = k.column ∧ c.attr = some 0) ∧
        ∀ a ∈ g.attributes, a.index = 0 → a.references = none)) = true := by
    decide +kernel
  obtain ⟨g, compiles, shown⟩ := of_compilesTo passes
  obtain ⟨clean, ⟨t, mem, k, kMem, c, cMem, name, stored⟩, plain⟩ := of_decide_eq_true shown
  obtain ⟨doc, -, compiled⟩ := compiled_of_compile compiles
  have straight := all _ g compiles clean
  obtain ⟨r, -, -, -, a, aMem, index, target⟩ :=
    (straight.suited t mem k kMem c cMem name).stores 0 stored
  rw [plain a (compiled.mem_attributesOf.mp aMem).1 index] at target
  contradiction

end Schema

end FactModel
