import FactModel.Proofs.Schema.Creatable
import FactModel.Proofs.Schema.Issues
import Mathlib.Data.List.Find

/-!
# The columns that attribute names bind to

The name of an attribute should mean the column that exposes the attribute, or none.  Of a derived
attribute it always does.  Of an explicit one it does when the column that is spelled like the name
is the right one.  When no column is spelled like it, the attribute has none of its own, and then
only a reference can be without a column that another attribute took: the identifier of any other
name is that of a column, which the look-up finds in the end.
-/

namespace FactModel

namespace Mapping

section Compiled

variable {doc : Document} {g : Graph} (compiled : Compiled doc g)

include compiled

/-- The name that an attribute asks for is that of a column. -/
theorem exists_asked {t : Table} (mem : t ∈ (Schema.ofGraph g).tables) {a : Attribute}
    (aMem : a ∈ g.attributesOf t.entity) : ∃ c ∈ t.columns, c.name = asked g a := by
  refine forall_mem_ofGraph
    (P := fun t => ∀ a ∈ g.attributesOf t.entity, ∃ c ∈ t.columns, c.name = asked g a)
    ?_ ?_ t mem a aMem
  · intro e _ a aMem
    have there : asked g a ∈ (layoutOf g e.index).names := by
      rw [names_layoutOf compiled]
      exact List.mem_append_left _ ((mem_names_attributes compiled).mpr (.inr ⟨a, aMem, rfl⟩))
    exact List.mem_map.mp there
  · intro r _ t has a aMem
    have kept : t.columns ⊆ (addReverse g r t).columns := by
      unfold addReverse
      extract_lets name isShared columns
      split
      · exact fun _ mem => mem
      · simp only [columns]
        split
        · exact fun _ mem => mem
        · exact List.subset_append_left ..
    have owner : (addReverse g r t).entity = t.entity := by
      unfold addReverse
      extract_lets name isShared columns
      split <;> rfl
    obtain ⟨c, cMem, named⟩ := has a (owner ▸ aMem)
    exact ⟨c, kept cMem, named⟩

end Compiled

end Mapping

namespace View

/-- The column of a view that exposes an explicit attribute of its entity. -/
def exposing? (g : Graph) (t : Table) (a : Attribute) : Option ViewColumn :=
  (t.columnFor? a.index).map (shownColumn g)

/-- The column that is spelled like a name: the first that bears the name, or else the first that
shows an attribute of that name. -/
def spelled? (v : View) (name : String) : Option ViewColumn :=
  (v.columns.find? (·.name == name)).or (v.columns.find? (Name.key ·.attr == Name.key name))

/-- The name of an explicit attribute means the column that exposes the attribute, or none. -/
def BindsOwn (v : View) (g : Graph) (t : Table) (a : Attribute) : Prop :=
  v.column? a.name = none ∨ v.column? a.name = exposing? g t a

instance (v : View) (g : Graph) (t : Table) (a : Attribute) : Decidable (v.BindsOwn g t a) :=
  inferInstanceAs (Decidable (_ ∨ _))

/-- The name of a derived attribute means the column that shows the attribute, or none. -/
def BindsDerived (v : View) (d : DerivedAttribute) : Prop :=
  v.column? d.name = none ∨ ∃ c ∈ v.columns, v.column? d.name = some c ∧ c.derived = true ∧
    c.attr = d.name ∧ c.path = d.path

theorem column?_eq (v : View) (name : String) : v.column? name = (v.spelled? name).or
    (if v.hidden.any (Name.key · == Name.key name) then none
      else v.columns.find? (·.name == Name.identifier name)) := by
  unfold column? spelled?
  cases v.columns.find? (·.name == name) with
  | some c => rfl
  | none => cases v.columns.find? (Name.key ·.attr == Name.key name) <;> rfl

section Binding

variable {doc : Document} {g : Graph} (compiled : Compiled doc g) {entity : Nat} {t : Table}
  (table : (Schema.ofGraph g).tableOf entity = .ok t) {v : View}
  (viewed : ofEntity g (Schema.ofGraph g) entity = .ok v) {a : Attribute}
  (mem : a ∈ g.attributesOf entity)

include compiled table viewed mem

/-- No attribute that is left out of a view is spelled like an explicit one. -/
theorem hidden_any_eq_false : v.hidden.any (Name.key · == Name.key a.name) = false := by
  obtain ⟨-, -, differ⟩ := List.nodup_append.mp (compiled.keys_nodup entity)
  rw [List.any_eq_false]
  intro name hidden same
  have derived := (shown_ofEntity compiled table viewed).subset (List.mem_append_right _ hidden)
  obtain ⟨d, dMem, rfl⟩ := List.mem_map.mp derived
  exact differ _ (List.mem_map_of_mem mem) _ (List.mem_map_of_mem dMem) (eq_of_beq same).symm

/-- What exposes an attribute is a column of the view. -/
theorem mem_columns_of_exposing? {c : ViewColumn} (exposes : exposing? g t a = some c) :
    c ∈ v.columns ∧ c.attr = a.name := by
  obtain ⟨column, found, rfl⟩ := Option.map_eq_some_iff.mp exposes
  obtain ⟨extra, columns, -⟩ := (laid_of_ofEntity compiled table viewed).columns
  have stored : column.attr = some a.index := eq_of_beq (List.find?_some found :)
  have listed := List.mem_map_of_mem (f := shownColumn g) (List.mem_of_find?_eq_some found)
  exact ⟨columns ▸ List.mem_append_left _ listed, attr_ownColumn compiled mem stored⟩

/-- An attribute with a column is spelled like some column. -/
theorem spelled?_isSome {c : ViewColumn} (exposes : exposing? g t a = some c) :
    (v.spelled? a.name).isSome = true := by
  obtain ⟨cMem, attr⟩ := mem_columns_of_exposing? compiled table viewed mem exposes
  rw [spelled?, Option.isSome_or, Bool.or_eq_true]
  exact .inr (List.find?_isSome.mpr ⟨c, cMem, by simp [attr]⟩)

/-- Only a name of one word can be spelled like the column of another attribute. -/
theorem spelled?_eq_of_space (space : ' ' ∈ (Name.key a.name).toList) :
    v.spelled? a.name = exposing? g t a := by
  obtain ⟨tMem, owner⟩ := Schema.of_tableOf table
  obtain ⟨explicitKeys, -, differ⟩ := List.nodup_append.mp (compiled.keys_nodup entity)
  have unnamed : v.columns.find? (·.name == a.name) = none := by
    rw [List.find?_eq_none]
    intro c cMem same
    have solid := (isPlain_of_mem_columns compiled table viewed cMem).solid
    exact solid.space_not_mem_key (eq_of_beq same ▸ space)
  have own : ∀ c ∈ t.columns, (Name.key (shownColumn g c).attr == Name.key a.name) =
      (c.attr == some a.index) := by
    intro c cMem
    have sound := Mapping.columnSound_of_mem tMem cMem
    rw [Bool.eq_iff_iff, beq_iff_eq, beq_iff_eq]
    cases stored : c.attr with
    | none =>
      rw [attr_ownColumn_of_none stored]
      simp only [reduceCtorEq, iff_false]
      exact fun key => sound.solid.space_not_mem_key (key ▸ space)
    | some i =>
      obtain ⟨b, bMem, rfl, -⟩ := sound.stores i stored
      rw [attr_ownColumn compiled bMem stored, Option.some.injEq]
      constructor
      · intro key
        rw [List.inj_on_of_nodup_map explicitKeys (owner ▸ bMem) mem key]
      · intro index
        rw [compiled.wellFormed.placed.attributeIndex.eq_of_index
          (compiled.mem_attributesOf.mp bMem).1 (compiled.mem_attributesOf.mp mem).1 index]
  obtain ⟨extra, columns, shows⟩ := (laid_of_ofEntity compiled table viewed).columns
  have derived : extra.find? (Name.key ·.attr == Name.key a.name) = none := by
    rw [List.find?_eq_none]
    intro c cMem same
    obtain ⟨d, dMem, attr, -⟩ := (shows c cMem).shown
    rw [attr] at same
    exact differ _ (List.mem_map_of_mem mem) _ (List.mem_map_of_mem dMem) (eq_of_beq same).symm
  rw [spelled?, unnamed, Option.none_or, columns, List.find?_append, derived, Option.or_none,
    List.find?_map, exposing?, Table.columnFor?]
  exact congrArg _ (List.find?_congr own)

/-- Another attribute has the column that an attribute without one asks for, unless the attribute
is a reference. -/
theorem exists_identifier (plain : a.type ≠ .reference) :
    ∃ c ∈ v.columns, c.name = Name.identifier a.name := by
  obtain ⟨tMem, rfl⟩ := Schema.of_tableOf table
  obtain ⟨extra, columns, -⟩ := (laid_of_ofEntity compiled table viewed).columns
  have noReference : a.references = none := by
    rw [← Option.not_isSome_iff_eq_none, ← compiled.wellFormed.apart.referenceType a
      (compiled.mem_attributesOf.mp mem).1]
    exact plain
  obtain ⟨c, cMem, named⟩ := Mapping.exists_asked compiled tMem mem
  rw [Mapping.asked, noReference] at named
  exact ⟨shownColumn g c, columns ▸ List.mem_append_left _ (List.mem_map_of_mem cMem), named⟩

/-- The name of an explicit attribute binds right just when the column that is spelled like it is
the one that exposes the attribute, and, if there is none, the attribute is a reference whose name
has an identifier that no column bears. -/
theorem bindsOwn_iff : v.BindsOwn g t a ↔ v.spelled? a.name = exposing? g t a ∧
    (exposing? g t a = none →
      a.type = .reference ∧ ∀ c ∈ v.columns, c.name ≠ Name.identifier a.name) := by
  rw [BindsOwn, column?_eq, hidden_any_eq_false compiled table viewed mem,
    if_neg Bool.false_ne_true]
  cases exposes : exposing? g t a with
  | some c =>
    obtain ⟨b, spelled⟩ :=
      Option.isSome_iff_exists.mp (spelled?_isSome compiled table viewed mem exposes)
    simp [spelled]
  | none =>
    rw [or_self, Option.or_eq_none_iff, List.find?_eq_none]
    refine and_congr_right fun _ => ⟨fun free _ => ?_, fun free c cMem same => ?_⟩
    · have differs (c) (cMem : c ∈ v.columns) : c.name ≠ Name.identifier a.name :=
        fun same => free c cMem (beq_iff_eq.mpr same)
      refine ⟨by_contra fun plain => ?_, differs⟩
      obtain ⟨c, cMem, named⟩ := exists_identifier compiled table viewed mem plain
      exact differs c cMem named
    · exact (free rfl).2 c cMem (eq_of_beq same)

end Binding

/-- In the view of every entity of a compiled graph the names of derived attributes bind right, and
those of explicit attributes just when no column stands in between.  Of a name of several words the
column that is spelled like it is always the right one. -/
theorem binds_iff_of_compile {text : String} {g : Graph} (compiles : compile text = .ok g)
    {entity : Nat} (inGraph : entity < g.entities.length) :
    ∃ t v, (Schema.ofGraph g).tableOf entity = .ok t ∧
      ofEntity g (Schema.ofGraph g) entity = .ok v ∧
      (∀ d ∈ g.derivedOf entity, v.BindsDerived d) ∧
      (∀ a ∈ g.attributesOf entity, v.BindsOwn g t a ↔
        v.spelled? a.name = exposing? g t a ∧ (exposing? g t a = none →
          a.type = .reference ∧ ∀ c ∈ v.columns, c.name ≠ Name.identifier a.name)) ∧
      ∀ a ∈ g.attributesOf entity, ' ' ∈ (Name.key a.name).toList →
        v.spelled? a.name = exposing? g t a := by
  obtain ⟨doc, -, compiled⟩ := compiled_of_compile compiles
  obtain ⟨t, -, table, -⟩ := Mapping.tableOf_eq_ok compiled inGraph
  obtain ⟨v, viewed, -⟩ := laid_ofEntity compiled table
  refine ⟨t, v, table, viewed, fun d mem => ?_, fun a mem =>
    bindsOwn_iff compiled table viewed mem, fun a mem =>
    spelled?_eq_of_space compiled table viewed mem⟩
  rcases column?_derived compiled table viewed (nonblank_of_compile compiles) mem with
    ⟨-, none⟩ | ⟨-, c, cMem, found, shows⟩
  · exact .inl none
  · exact .inr ⟨c, cMem, found, shows⟩

/-- The names of an entity's attributes, tested one by one. -/
def bindsAll (g : Graph) (entity : Nat) : Bool :=
  match (Schema.ofGraph g).tableOf entity, ofEntity g (Schema.ofGraph g) entity with
  | .ok t, .ok v => decide (∀ a ∈ g.attributesOf entity, v.BindsOwn g t a)
  | _, _ => false

theorem bindsAll_iff {g : Graph} {entity : Nat} {t : Table} {v : View}
    (table : (Schema.ofGraph g).tableOf entity = .ok t)
    (viewed : ofEntity g (Schema.ofGraph g) entity = .ok v) :
    bindsAll g entity = true ↔ ∀ a ∈ g.attributesOf entity, v.BindsOwn g t a := by
  rw [bindsAll, table, viewed]
  exact decide_eq_true_iff

/-- A reference without a column binds to none, where another attribute has the column that it asks
for. -/
theorem binds_where_reference_gives_way : ∃ g,
    compile "**A**\n- A has a b_id.\n- A has a **B**.\n**B**\n- B has a c.\n" = .ok g ∧
      0 < g.entities.length ∧
      ∃ t v, (Schema.ofGraph g).tableOf 0 = .ok t ∧ ofEntity g (Schema.ofGraph g) 0 = .ok v ∧
        (∀ d ∈ g.derivedOf 0, v.BindsDerived d) ∧ ∀ a ∈ g.attributesOf 0, v.BindsOwn g t a ∧
          v.spelled? a.name = exposing? g t a ∧ (exposing? g t a = none →
            a.type = .reference ∧ ∀ c ∈ v.columns, c.name ≠ Name.identifier a.name) := by
  have passes : compilesTo "**A**\n- A has a b_id.\n- A has a **B**.\n**B**\n- B has a c.\n"
      (fun g => decide (0 < g.entities.length) && bindsAll g 0) = true := by
    decide +kernel
  obtain ⟨g, compiles, shown⟩ := of_compilesTo passes
  obtain ⟨inGraph, binds⟩ := Bool.and_eq_true_iff.mp shown
  have inGraph := of_decide_eq_true inGraph
  obtain ⟨t, v, table, viewed, derived, explicit, -⟩ := binds_iff_of_compile compiles inGraph
  have binds := (bindsAll_iff table viewed).mp binds
  exact ⟨g, compiles, inGraph, t, v, table, viewed, derived, fun a mem =>
    ⟨binds a mem, (explicit a mem).mp (binds a mem)⟩⟩

/-- Not every name of an attribute binds right: it may find the column that its attribute lost. -/
theorem not_all_bind : ¬∀ text g, compile text = .ok g → ∀ entity < g.entities.length,
    ∀ t v, (Schema.ofGraph g).tableOf entity = .ok t →
      ofEntity g (Schema.ofGraph g) entity = .ok v →
      (∀ d ∈ g.derivedOf entity, v.BindsDerived d) ∧
        ∀ a ∈ g.attributesOf entity, v.BindsOwn g t a := by
  intro all
  have passes : compilesTo "**A**\n- A has an Order Date.\n- A has an OrderDate.\n"
      (fun g => decide (0 < g.entities.length) && !bindsAll g 0) = true := by
    decide +kernel
  obtain ⟨g, compiles, shown⟩ := of_compilesTo passes
  obtain ⟨inGraph, fails⟩ := Bool.and_eq_true_iff.mp shown
  have inGraph := of_decide_eq_true inGraph
  obtain ⟨doc, -, compiled⟩ := compiled_of_compile compiles
  obtain ⟨t, -, table, -⟩ := Mapping.tableOf_eq_ok compiled inGraph
  obtain ⟨v, viewed, -⟩ := laid_ofEntity compiled table
  have binds := (all _ g compiles 0 inGraph t v table viewed).2
  rw [(bindsAll_iff table viewed).mpr binds] at fails
  contradiction

end View

end FactModel
