import FactModel.Proofs.Derivation.Naming
import FactModel.Proofs.View.Meaning

/-!
# Views over damaged schemas

Whatever keys and columns a schema has lost, as long as it has a table for every entity the view of
an entity can be laid out: each alias in it is bound once, before it is used, and each derived
attribute is shown in one column or else hidden, once, with one note.
-/

namespace FactModel

/-- Whether a note says that a derived attribute is left out. -/
def ViewNote.omits (attr : String) : ViewNote → Bool
  | .skippedJoin _ => false
  | .unsourced other => other == attr
  | .clash other _ => other == attr

namespace View

/-! ## What a view has of a derived attribute -/

/-- The columns that show a derived attribute, how often it is listed as hidden, and the notes that
it is left out. -/
structure Mentions where
  columns : List ViewColumn
  hidden : Nat
  notes : List ViewNote

/-- What a view has of the derived attribute of a name. -/
def mentions (v : View) (attr : String) : Mentions where
  columns := v.columns.filter fun c => c.derived && c.attr == attr
  hidden := v.hidden.count attr
  notes := v.notes.filter (·.omits attr)

theorem mem_mentions_columns {v : View} {attr : String} {c : ViewColumn} :
    c ∈ (v.mentions attr).columns ↔ c ∈ v.columns ∧ c.derived = true ∧ c.attr = attr := by
  simp [mentions]

theorem mentions_addDerived_of_ne {v : View} {d : Sourced} {attr : String}
    (other : d.derived.name ≠ attr) : (v.addDerived d).mentions attr = v.mentions attr := by
  unfold addDerived
  split
  · extract_lets name
    split
    · simp [mentions, ViewNote.omits, other]
    · simp [mentions, other]
  · simp [mentions, ViewNote.omits, other]

/-- Adding other attributes changes nothing about one. -/
theorem mentions_foldl_addDerived {v : View} {ds : List Sourced} {attr : String}
    (others : ∀ d ∈ ds, d.derived.name ≠ attr) :
    (ds.foldl addDerived v).mentions attr = v.mentions attr := by
  induction ds generalizing v with
  | nil => rfl
  | cons d ds ih =>
    rcases List.forall_mem_cons.mp others with ⟨other, others⟩
    rw [List.foldl_cons, ih others, mentions_addDerived_of_ne other]

theorem mentions_start (g : Graph) (entity : Nat) (t : Table) (js : Joins) (attr : String) :
    (start g entity t js).mentions attr = { columns := [], hidden := 0, notes := [] } := by
  simp [mentions, start, shownColumn, ownColumn, ViewNote.omits, List.filter_map, Function.comp_def]

/-- The column that shows a derived attribute. -/
def shownAs (d : DerivedAttribute) (tableAlias : String) (source : Column) : ViewColumn :=
  { name := Name.identifier d.name, attr := d.name, tableAlias, sourceColumn := source.name,
    type := d.type, derived := true, path := d.path }

/-- A derived attribute that has just been added is shown where it can be read and its name is
free, and else it is hidden. -/
theorem mentions_addDerived {v : View} {d : Sourced}
    (new : v.mentions d.derived.name = { columns := [], hidden := 0, notes := [] }) :
    (v.addDerived d).mentions d.derived.name =
      match d.tableAlias, d.source with
      | some tableAlias, some source =>
        if v.columns.any (·.name == Name.identifier d.derived.name) then
          { columns := [], hidden := 1,
            notes := [.clash d.derived.name (Name.identifier d.derived.name)] }
        else { columns := [shownAs d.derived tableAlias source], hidden := 0, notes := [] }
      | _, _ => { columns := [], hidden := 1, notes := [.unsourced d.derived.name] } := by
  simp only [mentions, Mentions.mk.injEq] at new
  rcases new with ⟨columns, hidden, notes⟩
  unfold addDerived
  split
  · extract_lets name
    split <;> simp_all [mentions, ViewNote.omits, shownAs, name]
  · simp_all [mentions, ViewNote.omits]

theorem own_addDerived (v : View) (d : Sourced) :
    (v.addDerived d).columns.filter (!·.derived) = v.columns.filter (!·.derived) := by
  unfold addDerived
  split
  · extract_lets name
    split
    · rfl
    · simp
  · rfl

/-! ## Views that lose nothing -/

/-- What becomes of a derived attribute in a view.

* It is shown in one column, which is read under the alias of the join along its path from the
  column that stores its source.
* Or it is hidden, with a note that it has no source or that the name of its column is taken. -/
inductive Resolved (g : Graph) (s : Schema) (v : View) (d : DerivedAttribute) :
    Mentions → Prop where
  | shown {j : Join} {source : Column} (mem : j ∈ v.joins) (path : j.path = d.path)
      (stored : g.storedIn? s d = some source) :
      Resolved g s v d { columns := [shownAs d j.tableAlias source], hidden := 0, notes := [] }
  | unsourced : Resolved g s v d { columns := [], hidden := 1, notes := [.unsourced d.name] }
  | clash : Resolved g s v d
      { columns := [], hidden := 1, notes := [.clash d.name (Name.identifier d.name)] }

/-- A column that shows an attribute is read from a table that is joined. -/
theorem Resolved.exists_join {g : Graph} {s : Schema} {v : View} {d : DerivedAttribute}
    {m : Mentions} (resolved : Resolved g s v d m) {c : ViewColumn} (mem : c ∈ m.columns) :
    ∃ j ∈ v.joins, j.tableAlias = c.tableAlias := by
  cases resolved with
  | @shown j source joined _ _ =>
    rw [List.mem_singleton.mp mem]
    exact ⟨j, joined, rfl⟩
  | unsourced => contradiction
  | clash => contradiction

/-- A view is well scoped and loses nothing.

* Its aliases are distinct, and none of them is that of the base table.
* Each join starts at the base table or at an earlier one, along all of its path but the last
  relationship.
* Each column is read from the base table or from a joined one.
* The joins are in the order of their paths.
* Each derived attribute is shown once, or hidden once with one note.
* It is shown just when keys back all of its path, its source is stored, and no column of the table
  and no attribute before it has taken the name of its column. -/
structure Scoped (g : Graph) (s : Schema) (entity : Nat) (t : Table) (v : View) : Prop where
  distinct : (v.joins.map (·.tableAlias)).Nodup
  base : ∀ j ∈ v.joins, j.tableAlias ≠ baseAlias
  parents : ∀ before j after, v.joins = before ++ j :: after →
    (j.path.dropLast = [] ∧ j.parent = baseAlias) ∨
      ∃ i ∈ before, i.path = j.path.dropLast ∧ i.tableAlias = j.parent
  sources : ∀ c ∈ v.columns, c.tableAlias = baseAlias ∨ ∃ j ∈ v.joins, j.tableAlias = c.tableAlias
  ordered : v.joins.Pairwise fun i j => orderKey g i.path < orderKey g j.path
  resolved : ∀ d ∈ g.derivedOf entity, Resolved g s v d (v.mentions d.name)
  shown : ∀ before d after, g.derivedOf entity = before ++ d :: after →
    ((v.mentions d.name).columns ≠ [] ↔ (∀ i ∈ d.path, ∃ k, s.keyFor? i = some k) ∧
      (∃ source, g.storedIn? s d = some source) ∧
      (∀ c ∈ t.columns, c.name ≠ Name.identifier d.name) ∧
      ∀ b ∈ before, ∀ c ∈ (v.mentions b.name).columns, c.name ≠ Name.identifier d.name)

theorem carried_iff {s : Schema} {path : List Nat} :
    carried s path = true ↔ ∀ i ∈ path, ∃ k, s.keyFor? i = some k := by
  simp only [carried, List.all_eq_true, Option.isSome_iff_exists]

theorem joins_addDerived (v : View) (d : Sourced) : (v.addDerived d).joins = v.joins := by
  obtain ⟨columns, hidden, notes, adds⟩ := addDerived_eq v d
  rw [adds]

section LaidOut

variable {g : Graph} {s : Schema} {entity : Nat} {t : Table} {js : Joins}

/-- The view to which some derived attributes have been added. -/
def laidOut (g : Graph) (s : Schema) (entity : Nat) (t : Table) (js : Joins)
    (ds : List DerivedAttribute) : View :=
  (ds.map (sourcedBy g s js)).foldl addDerived (start g entity t js)

theorem laidOut_append (before after : List DerivedAttribute) :
    laidOut g s entity t js (before ++ after) =
      (after.map (sourcedBy g s js)).foldl addDerived (laidOut g s entity t js before) := by
  rw [laidOut, List.map_append, List.foldl_append]
  rfl

theorem joins_laidOut (ds : List DerivedAttribute) :
    (laidOut g s entity t js ds).joins = js.joins :=
  List.foldlRecOn (motive := fun v : View => v.joins = js.joins) _ _ rfl
    fun v same d _ => (joins_addDerived v d).trans same

theorem own_laidOut (ds : List DerivedAttribute) :
    (laidOut g s entity t js ds).columns.filter (!·.derived) = t.columns.map (shownColumn g) := by
  refine List.foldlRecOn (motive := fun v : View =>
    v.columns.filter (!·.derived) = t.columns.map (shownColumn g)) _ _ ?_
    fun v same d _ => (own_addDerived v d).trans same
  apply List.filter_eq_self.mpr
  intro c mem
  rcases List.mem_map.mp mem with ⟨column, -, rfl⟩
  rfl

theorem mentions_laidOut_append {before after : List DerivedAttribute} {attr : String}
    (others : attr ∉ after.map (·.name)) :
    (laidOut g s entity t js (before ++ after)).mentions attr =
      (laidOut g s entity t js before).mentions attr := by
  rw [laidOut_append]
  apply mentions_foldl_addDerived
  intro d mem same
  rcases List.mem_map.mp mem with ⟨e, eMem, rfl⟩
  exact others (same ▸ List.mem_map_of_mem eMem)

theorem mentions_laidOut_of_not_mem {ds : List DerivedAttribute} {attr : String}
    (others : attr ∉ ds.map (·.name)) : (laidOut g s entity t js ds).mentions attr =
      { columns := [], hidden := 0, notes := [] } := by
  have none : (laidOut g s entity t js ([] ++ ds)).mentions attr =
      (laidOut g s entity t js []).mentions attr := mentions_laidOut_append others
  exact none.trans (mentions_start g entity t js attr)

/-- A column shows one of the derived attributes that have been added, or it is one of the table. -/
theorem mem_columns_laidOut {ds : List DerivedAttribute} {c : ViewColumn} :
    c ∈ (laidOut g s entity t js ds).columns ↔ (∃ column ∈ t.columns, shownColumn g column = c) ∨
      ∃ d ∈ ds, c ∈ ((laidOut g s entity t js ds).mentions d.name).columns := by
  have own : (laidOut g s entity t js ds).columns.filter (!·.derived) =
      t.columns.map (shownColumn g) := own_laidOut ds
  rw [← List.mem_map, ← own, List.mem_filter]
  constructor
  · intro mem
    by_cases isDerived : c.derived = true
    · apply Or.inr
      have mentioned := mem_mentions_columns.mpr ⟨mem, isDerived, rfl⟩
      by_cases added : c.attr ∈ ds.map (·.name)
      · rcases List.mem_map.mp added with ⟨d, dMem, attr⟩
        exact ⟨d, dMem, attr ▸ mentioned⟩
      · rw [mentions_laidOut_of_not_mem added] at mentioned
        contradiction
    · exact .inl ⟨mem, by simpa using isDerived⟩
  · rintro (⟨mem, -⟩ | ⟨d, -, mentioned⟩)
    · exact mem
    · exact (mem_mentions_columns.mp mentioned).1

section Split

variable {before after : List DerivedAttribute} {d : DerivedAttribute}
  (nodup : ((before ++ d :: after).map (·.name)).Nodup)

include nodup

/-- What a view has of an attribute was settled when the attribute was added. -/
theorem mentions_laidOut : (laidOut g s entity t js (before ++ d :: after)).mentions d.name =
    match js.tableAlias? d.path, g.storedIn? s d with
    | some tableAlias, some source =>
      if (laidOut g s entity t js before).columns.any (·.name == Name.identifier d.name) then
        { columns := [], hidden := 1, notes := [.clash d.name (Name.identifier d.name)] }
      else { columns := [shownAs d tableAlias source], hidden := 0, notes := [] }
    | _, _ => { columns := [], hidden := 1, notes := [.unsourced d.name] } := by
  rw [List.map_append, List.map_cons, List.nodup_middle, List.nodup_cons, List.mem_append,
    not_or] at nodup
  rcases nodup with ⟨⟨notBefore, notAfter⟩, -⟩
  rw [List.append_cons, mentions_laidOut_append notAfter, laidOut_append]
  exact mentions_addDerived (d := sourcedBy g s js d) (mentions_laidOut_of_not_mem notBefore)

/-- The name of a column is taken by a column of the table or by an attribute added before. -/
theorem any_columns_laidOut {name : String} :
    (laidOut g s entity t js before).columns.any (·.name == name) = true ↔
      (∃ c ∈ t.columns, c.name = name) ∨ ∃ b ∈ before,
        ∃ c ∈ ((laidOut g s entity t js (before ++ d :: after)).mentions b.name).columns,
          c.name = name := by
  have kept : ∀ b ∈ before,
      (laidOut g s entity t js (before ++ d :: after)).mentions b.name =
        (laidOut g s entity t js before).mentions b.name := by
    intro b mem
    apply mentions_laidOut_append
    rw [List.map_append, List.nodup_append] at nodup
    intro later
    exact nodup.2.2 _ (List.mem_map_of_mem mem) _ later rfl
  simp only [List.any_eq_true, beq_iff_eq, mem_columns_laidOut]
  constructor
  · rintro ⟨c, ⟨column, mem, rfl⟩ | ⟨b, mem, mentioned⟩, named⟩
    · exact .inl ⟨column, mem, named⟩
    · exact .inr ⟨b, mem, c, kept b mem ▸ mentioned, named⟩
  · rintro (⟨column, mem, named⟩ | ⟨b, mem, c, mentioned, named⟩)
    · exact ⟨_, .inl ⟨column, mem, rfl⟩, named⟩
    · exact ⟨c, .inr ⟨b, mem, kept b mem ▸ mentioned⟩, named⟩

end Split

end LaidOut

/-! ## Laying out over any schema -/

section Scoping

variable {doc : Document} {g : Graph} (compiled : Compiled doc g) {s : Schema} {entity : Nat}
  {t : Table} {js : Joins} {before after : List DerivedAttribute} {d : DerivedAttribute}
  (split : g.derivedOf entity = before ++ d :: after)

include compiled split

theorem resolved_laidOut : Resolved g s (laidOut g s entity t js (before ++ d :: after)) d
    ((laidOut g s entity t js (before ++ d :: after)).mentions d.name) := by
  have mem : d ∈ g.derivedOf entity := by simp [split]
  have nonempty := (compiled.chain_of_mem_derived (List.mem_of_mem_filter mem)).1
  rw [mentions_laidOut (split ▸ compiled.derivedNames_nodup entity)]
  split
  · next tableAlias source aliased stored =>
    split
    · exact .clash
    · rcases of_aliasIn aliased with ⟨none, -⟩ | ⟨j, jMem, path, rfl⟩
      · contradiction
      · exact .shown (by rwa [joins_laidOut]) path stored
  · exact .unsourced

variable (joined : JoinedWhere g s (joinPaths g (g.derivedOf entity)) js)

include joined

/-- The table at the end of a derivation path has an alias just when keys back all of the path. -/
theorem isSome_tableAlias?_path :
    (js.tableAlias? d.path).isSome = true ↔ ∀ i ∈ d.path, ∃ k, s.keyFor? i = some k := by
  have mem : d ∈ g.derivedOf entity := by simp [split]
  have nonempty := (compiled.chain_of_mem_derived (List.mem_of_mem_filter mem)).1
  rw [joined.isSome_tableAlias?, carried_iff]
  exact .inr ((mem_joinPaths g _).mpr ⟨nonempty, d, mem, List.prefix_refl _⟩)

theorem columns_laidOut_ne_nil_iff :
    ((laidOut g s entity t js (before ++ d :: after)).mentions d.name).columns ≠ [] ↔
      (∀ i ∈ d.path, ∃ k, s.keyFor? i = some k) ∧ (∃ source, g.storedIn? s d = some source) ∧
      (∀ c ∈ t.columns, c.name ≠ Name.identifier d.name) ∧
      ∀ b ∈ before,
        ∀ c ∈ ((laidOut g s entity t js (before ++ d :: after)).mentions b.name).columns,
          c.name ≠ Name.identifier d.name := by
  have nodup := split ▸ compiled.derivedNames_nodup entity
  rw [← isSome_tableAlias?_path compiled split joined, mentions_laidOut nodup]
  split
  · next tableAlias source aliased stored =>
    have free : (∀ c ∈ t.columns, c.name ≠ Name.identifier d.name) ∧ (∀ b ∈ before,
        ∀ c ∈ ((laidOut g s entity t js (before ++ d :: after)).mentions b.name).columns,
          c.name ≠ Name.identifier d.name) ↔
        ¬(laidOut g s entity t js before).columns.any (·.name == Name.identifier d.name) := by
      rw [any_columns_laidOut nodup]
      push Not
      rfl
    rw [free]
    split
    · next isTaken => simp [isTaken]
    · next isFree => simp [isFree, aliased, stored]
  · next unsourced =>
    constructor
    · intro ne
      contradiction
    · rintro ⟨isAliased, ⟨source, stored⟩, -⟩
      rcases Option.isSome_iff_exists.mp isAliased with ⟨tableAlias, aliased⟩
      exact absurd stored (unsourced tableAlias source aliased)

end Scoping

/-- However few keys and columns are left, a view that is laid out is well scoped and loses nothing. -/
theorem scoped_laidOut {doc : Document} {g : Graph} (compiled : Compiled doc g) (s : Schema)
    (entity : Nat) (t : Table) :
    (laidOut g s entity t (joinsAlong s (joinPaths g (g.derivedOf entity)))
      (g.derivedOf entity)).Scoped g s entity t := by
  have joined := joinedWhere_joinPaths compiled s entity
  generalize joinsAlong s (joinPaths g (g.derivedOf entity)) = js at joined
  have joins : (laidOut g s entity t js (g.derivedOf entity)).joins = js.joins := joins_laidOut _
  have resolved : ∀ d ∈ g.derivedOf entity,
      Resolved g s (laidOut g s entity t js (g.derivedOf entity)) d
        ((laidOut g s entity t js (g.derivedOf entity)).mentions d.name) := by
    intro d mem
    rcases List.append_of_mem mem with ⟨before, after, split⟩
    have here : Resolved g s (laidOut g s entity t js (before ++ d :: after)) d
        ((laidOut g s entity t js (before ++ d :: after)).mentions d.name) :=
      resolved_laidOut compiled split
    rwa [← split] at here
  constructor
  · rw [joins]
    exact joined.aliases_nodup
  · rw [joins]
    intro j mem
    exact joined.alias_ne_base mem
  · rw [joins]
    intro before j after split
    have follows := joined.linked.follows split
    exact of_aliasIn follows.parent
  · intro c mem
    rcases mem_columns_laidOut.mp mem with ⟨column, -, rfl⟩ | ⟨d, dMem, mentioned⟩
    · exact .inl rfl
    · exact .inr ((resolved d dMem).exists_join mentioned)
  · rw [joins, ← List.pairwise_map (R := fun p q => orderKey g p < orderKey g q), joined.inOrder]
    exact (pairwise_orderKey_joinPaths g _).filter _
  · exact resolved
  · intro before d after split
    have here := columns_laidOut_ne_nil_iff (t := t) compiled split joined
    rwa [← split] at here

/-- Over every schema with a table for each entity the view of an entity of a compiled graph is laid
out just when its table stores attributes of the graph only.  Whenever it is laid out, it is well
scoped and loses nothing. -/
theorem exists_scoped_of_compile {text : String} {g : Graph} (compiles : compile text = .ok g)
    {s : Schema} (tables : ∀ entity < g.entities.length, ∃ t, s.tableOf entity = .ok t)
    {entity : Nat} (inGraph : entity < g.entities.length) :
    ∃ t, s.tableOf entity = .ok t ∧ ((∃ v, ofEntity g s entity = .ok v) ↔ t.StoresIn g) ∧
      ∀ v, ofEntity g s entity = .ok v → v.Scoped g s entity t := by
  rcases compiled_of_compile compiles with ⟨doc, -, compiled⟩
  rcases tables entity inGraph with ⟨t, table⟩
  refine ⟨t, table, ⟨?_, fun stores => ?_⟩, ?_⟩
  · rintro ⟨v, viewed⟩
    exact storesIn_of_ofEntity table viewed
  · exact ⟨_, ofEntity_eq_foldl compiled tables inGraph table stores⟩
  · intro v viewed
    have stores := storesIn_of_ofEntity table viewed
    rw [ofEntity_eq_foldl compiled tables inGraph table stores, Except.ok.injEq] at viewed
    exact viewed ▸ scoped_laidOut compiled s entity t

/-- A schema that has lost the keys for a relationship. -/
def cutAt (s : Schema) (relationship : Nat) : Schema :=
  { tables := s.tables.map fun t =>
      { t with foreignKeys := t.foreignKeys.filter (!·.backs relationship) } }

/-- Attributes are taken over from two entities. -/
def forkText : String :=
  "**A**\n- A has a **B**.\n- A has a **C**.\n**B**\n- B has a Size.\n**C**\n- C has a Size.\n"

/-- The key for one of two relationships is gone, and with it what is taken over along it. -/
theorem exists_scoped_cut : ∃ g, compile forkText = .ok g ∧
    (g.derivedOf 0).map (fun d => (d.path, carried (cutAt (Schema.ofGraph g) 0) d.path)) =
        [([0], false), ([1], true)] ∧
      (∀ entity < g.entities.length, ∃ t, (cutAt (Schema.ofGraph g) 0).tableOf entity = .ok t) ∧
      0 < g.entities.length ∧ ∃ t v, (cutAt (Schema.ofGraph g) 0).tableOf 0 = .ok t ∧
        ofEntity g (cutAt (Schema.ofGraph g) 0) 0 = .ok v ∧
          v.Scoped g (cutAt (Schema.ofGraph g) 0) 0 t := by
  have passes : compilesTo forkText (fun g => decide (
      (g.derivedOf 0).map (fun d => (d.path, carried (cutAt (Schema.ofGraph g) 0) d.path)) =
        [([0], false), ([1], true)] ∧
      (∀ entity < g.entities.length,
        ((cutAt (Schema.ofGraph g) 0).tableOf entity).toOption.isSome = true) ∧
      0 < g.entities.length ∧
      ∀ t ∈ (cutAt (Schema.ofGraph g) 0).tables, ∀ c ∈ t.columns,
        c.attr.all (· < g.attributes.length) = true)) = true := by
    decide +kernel
  rcases of_compilesTo passes with ⟨g, compiles, shown⟩
  rcases of_decide_eq_true shown with ⟨seen, found, inGraph, stored⟩
  have tables : ∀ entity < g.entities.length,
      ∃ t, (cutAt (Schema.ofGraph g) 0).tableOf entity = .ok t := by
    intro entity inside
    have isSome := found entity inside
    cases table : (cutAt (Schema.ofGraph g) 0).tableOf entity with
    | ok t => exact ⟨t, rfl⟩
    | error e =>
      rw [table] at isSome
      contradiction
  rcases exists_scoped_of_compile compiles tables inGraph with ⟨t, table, laid, isScoped⟩
  have stores : t.StoresIn g := by
    intro c mem attr isAttr
    have within := stored t (Schema.of_tableOf table).1 c mem
    rw [isAttr] at within
    exact of_decide_eq_true within
  rcases laid.mpr stores with ⟨v, viewed⟩
  exact ⟨g, compiles, seen, tables, inGraph, t, v, table, viewed, isScoped v viewed⟩

end View

end FactModel
