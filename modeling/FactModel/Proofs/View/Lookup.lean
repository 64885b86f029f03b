import FactModel.Proofs.Derivation.Naming
import FactModel.Proofs.Graph.Named
import FactModel.Proofs.Schema.Columns
import FactModel.Proofs.View.Meaning

/-!
# Looking up derived attributes in a view

A view shows a derived attribute or hides it.  There is a space in the name of a derived attribute
and none in the name of a column, so that the name can only mean the column that shows the
attribute, and means nothing when the attribute is hidden.
-/

namespace FactModel

namespace Compiled

variable {doc : Document} {g : Graph} (compiled : Compiled doc g)
  (named : ∀ a ∈ g.attributes, Name.Nonblank a.name)

include compiled named

theorem nonblank_nameAlong {first last : Nat} {path : List Nat} (chain : g.Chain first path last)
    {name : String} (nonblank : Name.Nonblank name) : Name.Nonblank (g.nameAlong path name) := by
  induction chain with
  | nil =>
    rw [g.nameAlong_nil]
    exact nonblank
  | cons mem derivable rest ih =>
    rw [g.nameAlong_cons, compiled.targetName_index mem]
    exact Name.nonblank_append (compiled.nonblank_target named mem derivable) ih

/-- Behind the name of the first target there is a space, and then the rest of the name. -/
theorem space_mem_key {d : DerivedAttribute} (mem : d ∈ g.derived) :
    ' ' ∈ (Name.key d.name).toList := by
  obtain ⟨last, a, stands⟩ := compiled.exists_standsFor mem
  have chain := stands.chain
  rw [stands.name]
  cases path : d.path with
  | nil => exact absurd path stands.nonempty
  | cons i rest =>
    rw [path] at chain
    obtain ⟨r, rMem, derivable, -, rfl, restChain⟩ := Graph.chain_cons_iff.mp chain
    rw [g.nameAlong_cons, compiled.targetName_index rMem]
    have aNamed := named a (compiled.mem_attributesOf.mp stands.listed).1
    exact Name.space_mem_key_of_nonblank (compiled.nonblank_target named rMem derivable)
      (compiled.nonblank_nameAlong named restChain aNamed)

end Compiled

namespace View

/-! ## Shown and hidden attributes -/

/-- The names of the derived attributes that a view shows. -/
def shown (v : View) : List String :=
  (v.columns.filter (·.derived)).map (·.attr)

theorem keyColumn_addDerived (v : View) (d : Sourced) : (v.addDerived d).keyColumn = v.keyColumn := by
  obtain ⟨columns, hidden, notes, adds⟩ := addDerived_eq v d
  rw [adds]

/-- A derived attribute is either shown or hidden. -/
theorem shown_addDerived (v : View) (d : Sourced) :
    ((v.addDerived d).shown ++ (v.addDerived d).hidden).Perm
      (v.shown ++ v.hidden ++ [d.derived.name]) := by
  unfold addDerived
  split
  · extract_lets name
    split
    · simp [shown]
    · simp only [shown, List.filter_append, List.map_append, List.append_assoc]
      exact List.Perm.append_left _ List.perm_append_comm
  · simp [shown]

theorem shown_foldl_addDerived (v : View) (ds : List Sourced) :
    ((ds.foldl addDerived v).shown ++ (ds.foldl addDerived v).hidden).Perm
      (v.shown ++ v.hidden ++ ds.map (·.derived.name)) := by
  induction ds generalizing v with
  | nil => simp
  | cons d ds ih =>
    refine (ih (v.addDerived d)).trans ?_
    rw [List.map_cons, List.append_cons]
    exact (shown_addDerived v d).append_right _

theorem shown_start (g : Graph) (entity : Nat) (t : Table) (js : Joins) :
    (start g entity t js).shown = [] := by
  rw [shown, List.map_eq_nil_iff, List.filter_eq_nil_iff]
  intro c mem
  obtain ⟨column, -, rfl⟩ := List.mem_map.mp mem
  simp [shownColumn, ownColumn]

/-! ## Names that mean a column -/

/-- A column without an attribute shows its own name. -/
theorem attr_ownColumn_of_none {g : Graph} {c : Column} (stored : c.attr = none) :
    (shownColumn g c).attr = c.name := by
  simp [shownColumn, ownColumn, stored]

/-- The column of an attribute shows its name. -/
theorem attr_ownColumn {doc : Document} {g : Graph} (compiled : Compiled doc g) {entity : Nat}
    {a : Attribute} (mem : a ∈ g.attributesOf entity) {c : Column}
    (stored : c.attr = some a.index) : (shownColumn g c).attr = a.name := by
  simp [shownColumn, ownColumn, stored, compiled.attribute_getElem? mem]

section Lookup

variable {doc : Document} {g : Graph} (compiled : Compiled doc g) {entity : Nat} {t : Table}
  (table : (Schema.ofGraph g).tableOf entity = .ok t) {v : View}
  (viewed : ofEntity g (Schema.ofGraph g) entity = .ok v)

include compiled table viewed

theorem laid_of_ofEntity : Laid g (Schema.ofGraph g)
    (joinsAlong (Schema.ofGraph g) (joinPaths g (g.derivedOf entity))) entity t v := by
  obtain ⟨u, viewed', laid⟩ := laid_ofEntity compiled table
  rwa [Except.ok.inj (viewed.symm.trans viewed')]

theorem keyColumn_ofEntity : v.keyColumn = t.primaryKey.head? := by
  obtain rfl := Except.ok.inj ((ofEntity_eq compiled table).symm.trans viewed)
  exact List.foldlRecOn (motive := fun v : View => v.keyColumn = t.primaryKey.head?) _ _ rfl
    fun v same d _ => (keyColumn_addDerived v d).trans same

/-- Each derived attribute of an entity is shown or hidden. -/
theorem shown_ofEntity : (v.shown ++ v.hidden).Perm ((g.derivedOf entity).map (·.name)) := by
  obtain rfl := Except.ok.inj ((ofEntity_eq compiled table).symm.trans viewed)
  have shared := shown_foldl_addDerived
    (start g entity t (joinsAlong (Schema.ofGraph g) (joinPaths g (g.derivedOf entity))))
    ((g.derivedOf entity).map (sourcedBy g (Schema.ofGraph g)
      (joinsAlong (Schema.ofGraph g) (joinPaths g (g.derivedOf entity)))))
  rwa [shown_start, List.map_map] at shared

theorem isPlain_of_mem_columns {c : ViewColumn} (mem : c ∈ v.columns) : Name.IsPlain c.name := by
  obtain ⟨extra, columns, shows⟩ := (laid_of_ofEntity compiled table viewed).columns
  rw [columns] at mem
  rcases List.mem_append.mp mem with own | derived
  · obtain ⟨column, columnMem, rfl⟩ := List.mem_map.mp own
    exact (Mapping.columnSound_of_mem (Schema.of_tableOf table).1 columnMem).plain
  · obtain ⟨d, -, -, -, isName, -⟩ := (shows c derived).shown
    rw [isName]
    exact Name.isPlain_identifier d.name

/-- A column whose attribute is spelled like a derived one shows it. -/
theorem shows_of_key {d : DerivedAttribute} (dMem : d ∈ g.derivedOf entity)
    (space : ' ' ∈ (Name.key d.name).toList) {c : ViewColumn} (mem : c ∈ v.columns)
    (key : Name.key c.attr = Name.key d.name) :
    c.derived = true ∧ c.attr = d.name ∧ c.path = d.path := by
  obtain ⟨extra, columns, shows⟩ := (laid_of_ofEntity compiled table viewed).columns
  obtain ⟨-, derivedKeys, differ⟩ := List.nodup_append.mp (compiled.keys_nodup entity)
  rw [columns] at mem
  rcases List.mem_append.mp mem with own | derived
  · -- Neither a column name nor an explicit attribute is spelled like a derived one.
    obtain ⟨column, columnMem, rfl⟩ := List.mem_map.mp own
    obtain ⟨tMem, owner⟩ := Schema.of_tableOf table
    have sound := Mapping.columnSound_of_mem tMem columnMem
    exfalso
    cases stored : column.attr with
    | none =>
      rw [attr_ownColumn_of_none stored] at key
      exact sound.solid.space_not_mem_key (key ▸ space)
    | some i =>
      obtain ⟨a, aMem, rfl, -⟩ := sound.stores i stored
      rw [attr_ownColumn compiled aMem stored] at key
      exact differ _ (List.mem_map_of_mem (owner ▸ aMem)) _ (List.mem_map_of_mem dMem) key
  · obtain ⟨e, eMem, attr, path, -⟩ := (shows c derived).shown
    rw [attr] at key
    obtain rfl := List.inj_on_of_nodup_map derivedKeys eMem dMem key
    exact ⟨(shows c derived).isDerived, attr, path⟩

variable (named : ∀ a ∈ g.attributes, Name.Nonblank a.name)

include named

/-- No column has the name of a derived attribute. -/
theorem find?_name_derived {d : DerivedAttribute} (mem : d ∈ g.derivedOf entity) :
    v.columns.find? (·.name == d.name) = none := by
  rw [List.find?_eq_none]
  intro c cMem same
  have solid := (isPlain_of_mem_columns compiled table viewed cMem).solid
  rw [eq_of_beq same] at solid
  exact solid.space_not_mem_key (compiled.space_mem_key named (List.mem_of_mem_filter mem))

omit named in
/-- A derived attribute is either shown or hidden. -/
theorem mem_hidden_iff {d : DerivedAttribute} (mem : d ∈ g.derivedOf entity) :
    d.name ∈ v.hidden ↔ d.name ∉ v.shown := by
  have shared := shown_ofEntity compiled table viewed
  have names := compiled.derivedNames_nodup entity
  constructor
  · intro hidden isShown
    exact (List.nodup_append.mp (shared.nodup_iff.mpr names)).2.2 _ isShown _ hidden rfl
  · intro notShown
    have either := List.mem_append.mp (shared.mem_iff.mpr (List.mem_map_of_mem mem))
    exact either.resolve_left notShown

/-- The name of a derived attribute means the column that shows it, or nothing when the attribute is
hidden. -/
theorem column?_derived {d : DerivedAttribute} (mem : d ∈ g.derivedOf entity) :
    (d.name ∈ v.hidden ∧ v.column? d.name = none) ∨
      (d.name ∉ v.hidden ∧ ∃ c ∈ v.columns, v.column? d.name = some c ∧ c.derived = true ∧
        c.attr = d.name ∧ c.path = d.path) := by
  have space := compiled.space_mem_key named (List.mem_of_mem_filter mem)
  have shows {c : ViewColumn} (cMem : c ∈ v.columns)
      (same : (Name.key c.attr == Name.key d.name) = true) :=
    shows_of_key compiled table viewed mem space cMem (eq_of_beq same)
  rw [mem_hidden_iff compiled table viewed mem, column?,
    find?_name_derived compiled table viewed named mem]
  simp only
  by_cases isShown : d.name ∈ v.shown
  · refine .inr ⟨fun notShown => notShown isShown, ?_⟩
    obtain ⟨c, cMem, attr⟩ := List.mem_map.mp isShown
    have there : (v.columns.find? (Name.key ·.attr == Name.key d.name)).isSome = true :=
      List.find?_isSome.mpr ⟨c, List.mem_of_mem_filter cMem, by simp [attr]⟩
    obtain ⟨b, found⟩ := Option.isSome_iff_exists.mp there
    have bMem := List.mem_of_find?_eq_some found
    rw [found]
    exact ⟨b, bMem, rfl, shows bMem (List.find?_some found :)⟩
  · refine .inl ⟨isShown, ?_⟩
    have noAttribute : v.columns.find? (Name.key ·.attr == Name.key d.name) = none := by
      rw [List.find?_eq_none]
      intro c cMem same
      obtain ⟨isDerived, attr, -⟩ := shows cMem same
      exact isShown (attr ▸ List.mem_map_of_mem (List.mem_filter.mpr ⟨cMem, isDerived⟩))
    have hidden := (mem_hidden_iff compiled table viewed mem).mpr isShown
    have guarded : v.hidden.any (Name.key · == Name.key d.name) = true :=
      List.any_eq_true.mpr ⟨d.name, hidden, beq_self_eq_true _⟩
    rw [noAttribute]
    simp only
    rw [if_pos guarded]

end Lookup

end View

end FactModel
