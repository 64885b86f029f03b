import FactModel.Proofs.Schema.Keys

/-!
# Every relationship gets one right foreign key

Whatever graph is mapped, each of its relationships is backed by just one key of the schema.  The
key stands where the cardinality of the relationship puts it, and leads to the other end.
-/

namespace FactModel

/-- The foreign keys of a schema are those that a graph asks for.

* Just one key backs a relationship.
* It stands in the table of the source of a relationship to one and of the target of a relationship
  to many, and refers to the table of the other end.
* The column of a key is a column of its table; the column it refers to is the whole primary key of
  the table it refers to.
* A key is shared by relationships to many that reverse the relationship to one it was made for. -/
structure Schema.Backing (g : Graph) (s : Schema) : Prop where
  once : ∀ r ∈ g.relationships,
    (s.tables.flatMap (·.foreignKeys)).countP (·.backs r.index) = 1
  placed : ∀ r ∈ g.relationships, ∃ k t u, s.keyFor? r.index = some k ∧
    s.holderOf? r.index = some t ∧ k ∈ t.foreignKeys ∧ k.backs r.index = true ∧
    s.tableOf (if r.derivable then r.source else r.target) = .ok t ∧
    s.tableOf (if r.derivable then r.target else r.source) = .ok u ∧ s.table? k.refTable = some u
  columns : ∀ t ∈ s.tables, ∀ k ∈ t.foreignKeys, t.hasColumn k.column = true
  refers : ∀ t ∈ s.tables, ∀ k ∈ t.foreignKeys, ∃ u ∈ s.tables, s.table? k.refTable = some u ∧
    u.hasColumn k.refColumn = true ∧ u.primaryKey = [k.refColumn]
  shared : ∀ t ∈ s.tables, ∀ k ∈ t.foreignKeys, ∀ i ∈ k.sharedBy, ∃ r ∈ g.relationships,
    r.index = i ∧ r.cardinality = .oneToMany ∧ ∃ own ∈ g.relationships,
      own.index = k.relationship ∧ own.derivable = true ∧
      own.source = r.target ∧ own.target = r.source

theorem Relationship.eq_oneToMany {r : Relationship} (many : r.derivable = false) :
    r.cardinality = .oneToMany := by
  have isMany := r.isToMany_iff
  rw [many] at isMany
  exact eq_of_beq isMany

theorem Table.hasColumn_of_mem {t : Table} {name : String}
    (there : ∃ c ∈ t.columns, c.name = name) : t.hasColumn name = true := by
  obtain ⟨c, mem, rfl⟩ := there
  exact List.any_eq_true.mpr ⟨c, mem, beq_self_eq_true _⟩

namespace Mapping

section Backing

variable {doc : Document} {g : Graph} (compiled : Compiled doc g)

include compiled

/-- Tables are found by name. -/
theorem table?_nameOf {entity : Nat} (inGraph : entity < g.entities.length) :
    ∃ t ∈ (Schema.ofGraph g).tables, (Schema.ofGraph g).tableOf entity = .ok t ∧
      (Schema.ofGraph g).table? (nameOf g entity) = some t ∧ TableSound g entity t := by
  obtain ⟨t, mem, table, sound, only⟩ := tableOf_eq_ok compiled inGraph
  refine ⟨t, mem, table, ?_, sound⟩
  have found : ((Schema.ofGraph g).table? (nameOf g entity)).isSome = true :=
    List.find?_isSome.mpr ⟨t, mem, by simp [sound.named]⟩
  obtain ⟨u, uFound⟩ := Option.isSome_iff_exists.mp found
  have uMem := List.mem_of_find?_eq_some uFound
  obtain ⟨uBound, uSound⟩ := tableSound_of_mem compiled uMem
  have named : u.name = nameOf g entity := eq_of_beq (List.find?_some uFound :)
  rw [uFound, only u uMem (nameOf_injective uBound inGraph (uSound.named.symm.trans named))]

/-- The table that holds the key for a relationship is that of the entity that holds it. -/
theorem holderOf?_eq_some {r : Relationship} (mem : r ∈ g.relationships) {t : Table}
    (tMem : t ∈ (Schema.ofGraph g).tables) (owner : t.entity = r.holder) {k : ForeignKey}
    (kMem : k ∈ t.foreignKeys) (backs : k.backs r.index = true) :
    (Schema.ofGraph g).holderOf? r.index = some t := by
  have found : ((Schema.ofGraph g).holderOf? r.index).isSome = true :=
    List.find?_isSome.mpr ⟨t, tMem, List.any_eq_true.mpr ⟨k, kMem, backs⟩⟩
  obtain ⟨u, uFound⟩ := Option.isSome_iff_exists.mp found
  have uMem := List.mem_of_find?_eq_some uFound
  obtain ⟨other, otherMem, otherBacks⟩ :=
    List.any_eq_true.mp (List.find?_some uFound :)
  have holds := (((tableSound_of_mem compiled uMem).2.keys other otherMem).of_backs compiled mem
    otherBacks).1
  rw [uFound, (tables_indexed compiled).eq_of_index uMem tMem (holds.symm.trans owner.symm)]

/-- A key leads to the whole primary key of a table. -/
theorem KeySound.refers {entity : Nat} {columns : List Column} {k : ForeignKey}
    (sound : KeySound g entity columns k) : ∃ u ∈ (Schema.ofGraph g).tables,
      (Schema.ofGraph g).table? k.refTable = some u ∧ u.hasColumn k.refColumn = true ∧
      u.primaryKey = [k.refColumn] := by
  obtain ⟨made, madeMem, -, -, refTable, refColumn⟩ := sound.made
  obtain ⟨u, uMem, -, named, uSound⟩ := table?_nameOf compiled (referred_lt compiled madeMem)
  rw [refTable, refColumn]
  exact ⟨u, uMem, named, Table.hasColumn_of_mem ⟨_, uSound.stored, rfl⟩, uSound.primary⟩

theorem placed_of_mem {r : Relationship} (mem : r ∈ g.relationships) :
    ∃ k t u, (Schema.ofGraph g).keyFor? r.index = some k ∧
      (Schema.ofGraph g).holderOf? r.index = some t ∧ k ∈ t.foreignKeys ∧
      k.backs r.index = true ∧ (Schema.ofGraph g).tableOf r.holder = .ok t ∧
      (Schema.ofGraph g).tableOf r.referred = .ok u ∧
      (Schema.ofGraph g).table? k.refTable = some u := by
  obtain ⟨k, t, found, table, tMem, kMem, backs, -, refTable, -⟩ :=
    keyFor?_eq_some_of_mem compiled mem
  obtain ⟨u, -, referred, named, -⟩ := table?_nameOf compiled (referred_lt compiled mem)
  obtain ⟨t', -, table', sound, -⟩ := tableOf_eq_ok compiled (holder_lt compiled mem)
  obtain rfl := Except.ok.inj (table.symm.trans table')
  exact ⟨k, t, u, found, holderOf?_eq_some compiled mem tMem sound.owner kMem backs, kMem, backs,
    table, referred, refTable ▸ named⟩

end Backing

/-- The foreign keys of the schema of a compiled graph are those that its relationships ask for. -/
theorem backing_of_compile {text : String} {g : Graph} (compiles : compile text = .ok g) :
    (Schema.ofGraph g).Backing g := by
  obtain ⟨doc, -, compiled⟩ := compiled_of_compile compiles
  constructor
  · exact fun r mem => countP_backs_eq_one compiled mem
  · exact fun r mem => placed_of_mem compiled mem
  · intro t tMem k kMem
    exact Table.hasColumn_of_mem ((tableSound_of_mem compiled tMem).2.keys k kMem).column
  · intro t tMem k kMem
    exact ((tableSound_of_mem compiled tMem).2.keys k kMem).refers compiled
  · intro t tMem k kMem i iMem
    obtain ⟨r, mem, many, index, own, ownMem, derivable, ownIndex, source, isTarget⟩ :=
      ((tableSound_of_mem compiled tMem).2.keys k kMem).shared i iMem
    exact ⟨r, mem, index, r.eq_oneToMany many, own, ownMem, ownIndex, derivable, source, isTarget⟩

/-- A relationship to one and its reverse share a key. -/
theorem backing_shared : ∃ g,
    compile "**A**\n- A has one or more **B**.\n**B**\n- B has an **A**.\n" = .ok g ∧
      ((Schema.ofGraph g).tables.flatMap (·.foreignKeys)).map (fun k =>
        (k.relationship, k.sharedBy)) = [(1, [0])] ∧ (Schema.ofGraph g).Backing g := by
  have passes : compilesTo "**A**\n- A has one or more **B**.\n**B**\n- B has an **A**.\n"
      (fun g => decide (((Schema.ofGraph g).tables.flatMap (·.foreignKeys)).map (fun k =>
        (k.relationship, k.sharedBy)) = [(1, [0])])) = true := by
    decide +kernel
  obtain ⟨g, compiles, shown⟩ := of_compilesTo passes
  exact ⟨g, compiles, of_decide_eq_true shown, backing_of_compile compiles⟩

end Mapping

end FactModel
