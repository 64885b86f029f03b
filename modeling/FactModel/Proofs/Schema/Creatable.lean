import FactModel.Proofs.Schema.Columns
import FactModel.Proofs.Schema.Keys

/-!
# Tables that can be created

A table can be created when all of its columns have names, and no two of them the same one.  A plain
attribute and a reference give way when the name that they ask for is taken, and so does a
relationship to many.  The identifier of an entity does not, and neither does a relationship to one
for which no reference attribute stands.  This module says of which entities the tables can be
created.
-/

namespace FactModel

/-- A table whose columns have names that are all different. -/
structure Table.Creatable (t : Table) : Prop where
  named : ∀ c ∈ t.columns, c.name ≠ ""
  apart : (t.columns.map (·.name)).Nodup

namespace Mapping

open ForeignKey

/-- The column name that an attribute asks for. -/
def asked (g : Graph) (a : Attribute) : String :=
  match a.references with
  | some target => keyName (g.entityName target)
  | none => Name.identifier a.name

/-- The relationships to one of an entity for which no reference attribute stands. -/
def shadowed (g : Graph) (entity : Nat) : List Relationship :=
  (g.outgoing entity).filter fun r =>
    r.derivable && (g.attributesOf entity).all (·.references != some r.target)

/-- The column name that a relationship takes for which no reference attribute stands. -/
def shadowedName (g : Graph) (r : Relationship) : String :=
  Name.identifier (g.entityName r.target) ++ "_ref_id"

/-- What the names around an entity must be for its table to be creatable.

* There is an ASCII letter or digit in the name of every attribute that is no reference.
* No attribute in front of the identifier asks for the same column.
* The columns of relationships for which no reference attribute stands have names of their own. -/
structure Unclashed (g : Graph) (entity : Nat) : Prop where
  lettered : ∀ a ∈ g.attributesOf entity, a.references = none →
    ∃ c ∈ a.name.toList, Name.isIdentifierChar c = true
  identifier : (g.attributesOf entity).Pairwise fun b a =>
    a.identifying = true → asked g b ≠ asked g a
  targets : ((shadowed g entity).map (shadowedName g)).Nodup
  free : ∀ r ∈ shadowed g entity, shadowedName g r ≠ (primaryKey g entity).name ∧
    ∀ a ∈ g.attributesOf entity, shadowedName g r ≠ asked g a

/-- The column names of a layout. -/
def Layout.names (l : Layout) : List String :=
  l.columns.map (·.name)

theorem Layout.taken_iff {l : Layout} {name : String} : l.taken name = true ↔ name ∈ l.names := by
  simp [Layout.taken, Layout.names]

/-- A column name is empty only when it is that of an attribute without letters and digits. -/
theorem asked_eq_empty_iff {g : Graph} {a : Attribute} : asked g a = "" ↔
    a.references = none ∧ ∀ c ∈ a.name.toList, Name.isIdentifierChar c = false := by
  rw [asked]
  cases a.references with
  | none => simp [Name.identifier_eq_empty_iff]
  | some target => simp [keyName]

theorem nodup_concat_iff {α : Type} {l : List α} {a : α} :
    (l ++ [a]).Nodup ↔ l.Nodup ∧ a ∉ l := by
  rw [← List.concat_eq_append, List.nodup_concat, and_comm]

/-! ## Laying out attributes -/

section Attributes

variable {g : Graph} {entity : Nat}

/-- The names after an attribute was laid out.  Only an identifier takes a name that is taken. -/
theorem names_add {a : Attribute} (l : Layout)
    (identifier : a.identifying = true → (primaryKey g entity).name = asked g a) :
    (l.add g entity a).names =
      if a.identifying = false ∧ asked g a ∈ l.names then l.names else l.names ++ [asked g a] := by
  by_cases identifies : a.identifying = true
  · rw [if_neg (by simp [identifies]), ← identifier identifies]
    simp [Layout.add, Layout.names, identifies]
  · have plain : a.identifying = false := by simpa using identifies
    rw [Layout.add, if_neg identifies]
    simp only [plain, true_and, ← Layout.taken_iff]
    cases references : a.references with
    | some target =>
      have isAsked : asked g a = keyName (g.entityName target) := by rw [asked, references]
      rw [isAsked]
      by_cases taken : l.taken (keyName (g.entityName target)) = true
      · simp [Layout.names, taken]
      · simp [Layout.names, taken, keyColumn]
    | none =>
      have isAsked : asked g a = Name.identifier a.name := by rw [asked, references]
      rw [isAsked]
      by_cases taken : l.taken (Name.identifier a.name) = true
      · simp [Layout.names, taken]
      · simp [Layout.names, taken]

theorem nodup_add {a : Attribute} (l : Layout)
    (identifier : a.identifying = true → (primaryKey g entity).name = asked g a) :
    (l.add g entity a).names.Nodup ↔
      l.names.Nodup ∧ (a.identifying = true → asked g a ∉ l.names) := by
  rw [names_add l identifier]
  split
  · next gives =>
    simp [gives.1]
  · next stays =>
    rw [nodup_concat_iff]
    refine and_congr_right fun _ => ⟨fun free _ => free, fun free taken => ?_⟩
    cases identifies : a.identifying with
    | true => exact free identifies taken
    | false => exact stays ⟨identifies, taken⟩

theorem mem_names_add {a : Attribute} (l : Layout)
    (identifier : a.identifying = true → (primaryKey g entity).name = asked g a) {name : String} :
    name ∈ (l.add g entity a).names ↔ name ∈ l.names ∨ asked g a = name := by
  rw [names_add l identifier]
  split
  · next gives =>
    exact ⟨.inl, fun either => either.elim id fun same => same ▸ gives.2⟩
  · rw [List.mem_append, List.mem_singleton, eq_comm (a := name)]

theorem mem_names_foldl_add {as : List Attribute} (l : Layout)
    (identifier : ∀ a ∈ as, a.identifying = true → (primaryKey g entity).name = asked g a)
    {name : String} : name ∈ (as.foldl (Layout.add g entity) l).names ↔
      name ∈ l.names ∨ ∃ a ∈ as, asked g a = name := by
  induction as generalizing l with
  | nil => simp
  | cons a rest ih =>
    obtain ⟨first, others⟩ := List.forall_mem_cons.mp identifier
    rw [List.foldl_cons, ih _ others, mem_names_add l first, List.exists_mem_cons_iff, or_assoc]

/-- Names are taken twice just when that of an identifier is taken before it is laid out. -/
theorem nodup_foldl_add {as : List Attribute} (l : Layout)
    (identifier : ∀ a ∈ as, a.identifying = true → (primaryKey g entity).name = asked g a) :
    (as.foldl (Layout.add g entity) l).names.Nodup ↔
      l.names.Nodup ∧ (∀ a ∈ as, a.identifying = true → asked g a ∉ l.names) ∧
        as.Pairwise fun b a => a.identifying = true → asked g b ≠ asked g a := by
  induction as generalizing l with
  | nil => simp
  | cons a rest ih =>
    obtain ⟨first, others⟩ := List.forall_mem_cons.mp identifier
    rw [List.foldl_cons, ih _ others, nodup_add l first, List.forall_mem_cons,
      List.pairwise_cons]
    simp only [mem_names_add l first, not_or]
    constructor
    · rintro ⟨⟨nodup, here⟩, there, apart⟩
      exact ⟨nodup, ⟨here, fun b mem identifies => (there b mem identifies).1⟩,
        fun b mem identifies => (there b mem identifies).2, apart⟩
    · rintro ⟨nodup, ⟨here, there⟩, differ, apart⟩
      exact ⟨⟨nodup, here⟩,
        fun b mem identifies => ⟨there b mem identifies, differ b mem identifies⟩, apart⟩

end Attributes

/-! ## Laying out relationships -/

section Relationships

variable {g : Graph}

/-- A relationship to one that is not backed gets a key on a column of its own. -/
theorem addShadowed_eq (l : Layout) (r : Relationship) : l.addShadowed g r =
    if r.derivable = true ∧ r.index ∉ standing l.keys then
      { l with
        columns := l.columns ++ [keyColumn g r.target (shadowedName g r) true none]
        keys := l.keys ++ [foreignKey g r.target r.index (shadowedName g r)] }
    else l := by
  have settled_iff : (!r.derivable || l.keys.any (·.backs r.index)) = true ↔
      ¬(r.derivable = true ∧ r.index ∉ standing l.keys) := by
    rw [mem_standing, Bool.or_eq_true, List.any_eq_true, Bool.not_eq_true', ← Bool.not_eq_true,
      not_and_or, not_not]
  unfold Layout.addShadowed
  by_cases settled : (!r.derivable || l.keys.any (·.backs r.index)) = true
  · rw [if_pos settled, if_neg (settled_iff.mp settled)]
  · rw [if_neg settled, if_pos (not_not.mp (settled ∘ settled_iff.mpr))]
    rfl

/-- The names after relationships were laid out: one more for each of those to one that were not
backed before. -/
theorem names_foldl_addShadowed {rs : List Relationship} (nodup : (rs.map (·.index)).Nodup)
    (l : Layout) : (rs.foldl (Layout.addShadowed g) l).names = l.names ++
      (rs.filter fun r => r.derivable && decide (r.index ∉ standing l.keys)).map
        (shadowedName g) := by
  induction rs generalizing l with
  | nil => simp
  | cons r rest ih =>
    obtain ⟨fresh, restNodup⟩ := List.nodup_cons.mp nodup
    rw [List.foldl_cons, ih restNodup, addShadowed_eq, List.filter_cons]
    by_cases made : r.derivable = true ∧ r.index ∉ standing l.keys
    · -- The new key backs none of the other relationships.
      have others : (rest.filter fun s => s.derivable &&
            decide (s.index ∉ standing (l.keys ++
              [foreignKey g r.target r.index (shadowedName g r)]))) =
          rest.filter fun s => s.derivable && decide (s.index ∉ standing l.keys) := by
        refine List.filter_congr fun s mem => ?_
        have differs : s.index ≠ r.index := fun same => fresh (List.mem_map.mpr ⟨s, mem, same⟩)
        simp [differs]
      rw [if_pos made, others, if_pos (by simpa using made)]
      simp [Layout.names, keyColumn]
    · rw [if_neg made, if_neg (by simpa using made)]

end Relationships

/-! ## The table of an entity -/

/-- The layout of an entity before its attributes are laid out. -/
def opening (g : Graph) (entity : Nat) : Layout :=
  { columns := if (primaryKey g entity).attr.isNone then [primaryKey g entity] else []
    keys := [], notes := [] }

/-- The table of an entity is opened with its primary key, unless the entity has an identifier. -/
theorem opening_cases (g : Graph) (entity : Nat) :
    (∃ a ∈ g.attributesOf entity, a.identifying = true ∧ (opening g entity).names = []) ∨
      ((∀ a ∈ g.attributesOf entity, a.identifying = false) ∧
        (primaryKey g entity).name = keyName (g.entityName entity) ∧
        (opening g entity).names = [(primaryKey g entity).name]) := by
  unfold opening primaryKey
  cases found : g.identifier? entity with
  | some a =>
    exact .inl ⟨a, List.mem_of_find?_eq_some found, List.find?_some found, rfl⟩
  | none =>
    exact .inr ⟨fun a mem => by simpa using List.find?_eq_none.mp found a mem, rfl, rfl⟩

section Tables

variable {doc : Document} {g : Graph} (compiled : Compiled doc g) {entity : Nat}

include compiled

/-- The primary key has the name that the identifier asks for. -/
theorem name_primaryKey {a : Attribute} (mem : a ∈ g.attributesOf entity)
    (identifies : a.identifying = true) : (primaryKey g entity).name = asked g a := by
  have plain : a.references = none := by
    rw [← Option.not_isSome_iff_eq_none]
    intro refers
    have := compiled.wellFormed.apart.referencePlain a (compiled.mem_attributesOf.mp mem).1 refers
    simp [identifies] at this
  rw [primaryKey, identifier?_eq_some compiled mem identifies, asked, plain]

/-- A relationship to one is backed after the attributes are laid out when one of them refers to its
target. -/
theorem mem_ownRelationships_iff {r : Relationship} (mem : r ∈ g.relationships)
    (derivable : r.derivable = true) :
    r.index ∈ (g.attributesOf r.source).filterMap (ownRelationship? g r.source) ↔
      ∃ a ∈ g.attributesOf r.source, a.references = some r.target := by
  rw [List.mem_filterMap]
  constructor
  · rintro ⟨a, aMem, own⟩
    obtain ⟨s, sMem, -, -, index, references⟩ := ownRelationship?_spec compiled aMem own
    exact ⟨a, aMem, compiled.eq_of_index sMem mem index ▸ references⟩
  · rintro ⟨a, aMem, references⟩
    obtain ⟨inGraph, owner⟩ := compiled.mem_attributesOf.mp aMem
    obtain ⟨s, sMem, sDerivable, source, target, index⟩ :=
      relationshipTo_spec compiled inGraph references
    have plain := compiled.wellFormed.apart.referencePlain a inGraph (by simp [references])
    refine ⟨a, aMem, ?_⟩
    rw [ownRelationship?, if_neg (by simp [plain]), references, Option.map_some, ← owner, index,
      compiled.wellFormed.apart.links s sMem r mem (source.trans owner) target
        (sDerivable.trans derivable.symm)]

/-- The names that attributes ask for come before those of relationships without a reference. -/
theorem names_layoutOf (entity : Nat) : (layoutOf g entity).names =
    ((g.attributesOf entity).foldl (Layout.add g entity) (opening g entity)).names ++
      (shadowed g entity).map (shadowedName g) := by
  have standingEq := standing_foldl_add g entity (opening g entity) (g.attributesOf entity)
  have opened : standing (opening g entity).keys = [] := rfl
  rw [opened, List.nil_append] at standingEq
  change ((g.outgoing entity).foldl (Layout.addShadowed g)
    ((g.attributesOf entity).foldl (Layout.add g entity) (opening g entity))).names = _
  have nodup : ((g.outgoing entity).map (·.index)).Nodup :=
    compiled.wellFormed.apart.relationshipIndex.nodup_map_filter _
  rw [names_foldl_addShadowed nodup, standingEq]
  refine congrArg (fun rs : List Relationship => _ ++ rs.map (shadowedName g)) ?_
  refine List.filter_congr fun r mem => ?_
  obtain ⟨rMem, rfl⟩ := mem_outgoing.mp mem
  cases derivable : r.derivable with
  | false => rfl
  | true =>
    rw [Bool.eq_iff_iff, Bool.true_and, Bool.true_and, decide_eq_true_eq,
      mem_ownRelationships_iff compiled rMem derivable, List.all_eq_true]
    simp

/-- The names taken when the attributes of an entity are laid out: that of the primary key, and
those that the attributes ask for. -/
theorem mem_names_attributes {name : String} :
    name ∈ ((g.attributesOf entity).foldl (Layout.add g entity) (opening g entity)).names ↔
      (primaryKey g entity).name = name ∨ ∃ a ∈ g.attributesOf entity, asked g a = name := by
  rw [mem_names_foldl_add _ fun a => name_primaryKey compiled]
  rcases opening_cases g entity with ⟨a, mem, identifies, opened⟩ | ⟨-, -, opened⟩
  · rw [opened, name_primaryKey compiled mem identifies]
    simp only [List.not_mem_nil, false_or]
    exact ⟨.inr, fun either => either.elim (fun same => ⟨a, mem, same⟩) id⟩
  · rw [opened, List.mem_singleton, eq_comm]

theorem nodup_names_attributes :
    ((g.attributesOf entity).foldl (Layout.add g entity) (opening g entity)).names.Nodup ↔
      (g.attributesOf entity).Pairwise fun b a =>
        a.identifying = true → asked g b ≠ asked g a := by
  rw [nodup_foldl_add _ fun a => name_primaryKey compiled]
  rcases opening_cases g entity with ⟨-, -, -, opened⟩ | ⟨none, -, opened⟩
  · simp [opened]
  · rw [opened]
    simp +contextual [none]

/-- No column of a table goes without a name when there is a letter or a digit in the name of each
attribute that is no reference. -/
theorem empty_not_mem_names_iff : "" ∉ (layoutOf g entity).names ↔
    ∀ a ∈ g.attributesOf entity, a.references = none →
      ∃ c ∈ a.name.toList, Name.isIdentifierChar c = true := by
  have asked_iff : (∀ a ∈ g.attributesOf entity, asked g a ≠ "") ↔
      ∀ a ∈ g.attributesOf entity, a.references = none →
        ∃ c ∈ a.name.toList, Name.isIdentifierChar c = true := by
    refine forall₂_congr fun a _ => ?_
    rw [ne_eq, asked_eq_empty_iff]
    simp
  rw [← asked_iff, names_layoutOf compiled, List.mem_append, mem_names_attributes compiled]
  constructor
  · exact fun named a mem empty => named (.inl (.inr ⟨a, mem, empty⟩))
  · rintro named ((primary | ⟨a, mem, empty⟩) | target)
    · rcases opening_cases g entity with ⟨a, mem, identifies, -⟩ | ⟨-, made, -⟩
      · exact named a mem ((name_primaryKey compiled mem identifies).symm.trans primary)
      · simp [made, keyName] at primary
    · exact named a mem empty
    · obtain ⟨r, -, empty⟩ := List.mem_map.mp target
      simp [shadowedName] at empty

/-- The table of an entity, before relationships to many are laid out. -/
theorem creatable_tableOf_iff : (tableOf g entity).Creatable ↔ Unclashed g entity := by
  have apart : (layoutOf g entity).names.Nodup ↔
      ((g.attributesOf entity).Pairwise fun b a =>
        a.identifying = true → asked g b ≠ asked g a) ∧
      ((shadowed g entity).map (shadowedName g)).Nodup ∧
      ∀ r ∈ shadowed g entity, shadowedName g r ≠ (primaryKey g entity).name ∧
        ∀ a ∈ g.attributesOf entity, shadowedName g r ≠ asked g a := by
    rw [names_layoutOf compiled, List.nodup_append, nodup_names_attributes compiled]
    refine and_congr_right fun _ => and_congr_right fun _ => ?_
    simp only [mem_names_attributes compiled, List.mem_map]
    constructor
    · intro differ r mem
      exact ⟨fun same => differ _ (.inl rfl) _ ⟨r, mem, rfl⟩ same.symm,
        fun a aMem same => differ _ (.inr ⟨a, aMem, rfl⟩) _ ⟨r, mem, rfl⟩ same.symm⟩
    · rintro differ name (rfl | ⟨a, aMem, rfl⟩) _ ⟨r, mem, rfl⟩ same
      · exact (differ r mem).1 same.symm
      · exact (differ r mem).2 a aMem same.symm
  have named : (∀ c ∈ (layoutOf g entity).columns, c.name ≠ "") ↔
      "" ∉ (layoutOf g entity).names := by
    simp [Layout.names]
  constructor
  · intro creatable
    obtain ⟨identifier, targets, others⟩ := apart.mp creatable.apart
    exact ⟨(empty_not_mem_names_iff compiled).mp (named.mp creatable.named), identifier, targets,
      others⟩
  · intro unclashed
    exact ⟨named.mpr ((empty_not_mem_names_iff compiled).mpr unclashed.lettered),
      apart.mpr ⟨unclashed.identifier, unclashed.targets, unclashed.free⟩⟩

end Tables

/-! ## Relationships to many -/

/-- A relationship to many gives way: it adds a column only under a name that is free. -/
theorem creatable_addReverse_iff (g : Graph) (r : Relationship) (t : Table) :
    (addReverse g r t).Creatable ↔ t.Creatable := by
  unfold addReverse
  extract_lets name isShared columns
  split
  · exact ⟨fun c => ⟨c.named, c.apart⟩, fun c => ⟨c.named, c.apart⟩⟩
  · by_cases taken : t.hasColumn name = true
    · have same : columns = t.columns := if_pos taken
      rw [same]
      exact ⟨fun c => ⟨c.named, c.apart⟩, fun c => ⟨c.named, c.apart⟩⟩
    · have grown : columns = t.columns ++ [keyColumn g r.source name true none] := if_neg taken
      have free : name ∉ t.columns.map (·.name) := by
        simpa [Table.hasColumn] using taken
      rw [grown]
      constructor
      · intro creatable
        refine ⟨fun c mem => creatable.named c (List.mem_append_left _ mem), ?_⟩
        have apart := creatable.apart
        rw [List.map_append] at apart
        exact (List.nodup_append.mp apart).1
      · intro creatable
        refine ⟨?_, ?_⟩
        · intro c mem
          rcases List.mem_append.mp mem with old | new
          · exact creatable.named c old
          · rw [List.mem_singleton.mp new]
            exact reverseName_ne_empty g r
        · rw [List.map_append]
          exact nodup_concat_iff.mpr ⟨creatable.apart, free⟩

/-- A table of a compiled graph can be created just when no names around its entity clash. -/
theorem creatable_iff_of_compile {text : String} {g : Graph} (compiles : compile text = .ok g)
    {t : Table} (mem : t ∈ (Schema.ofGraph g).tables) : t.Creatable ↔ Unclashed g t.entity := by
  obtain ⟨doc, -, compiled⟩ := compiled_of_compile compiles
  refine forall_mem_ofGraph (P := fun t => t.Creatable ↔ Unclashed g t.entity) ?_ ?_ t mem
  · exact fun e _ => creatable_tableOf_iff compiled
  · intro r _ t same
    have owner : (addReverse g r t).entity = t.entity := by
      unfold addReverse
      extract_lets
      split <;> rfl
    rw [creatable_addReverse_iff, same, owner]

/-- Names that clash only where columns give way: the reference takes the column of an attribute. -/
theorem creatable_where_reference_gives_way : ∃ g t,
    compile "**A**\n- A has a B Id.\n- A has a **B**.\n" = .ok g ∧ t ∈ (Schema.ofGraph g).tables ∧
      t.columns.map (·.name) = ["a_id", "b_id"] ∧ Unclashed g t.entity := by
  have passes : compilesTo "**A**\n- A has a B Id.\n- A has a **B**.\n" (fun g =>
      decide (∃ t ∈ (Schema.ofGraph g).tables, t.columns.map (·.name) = ["a_id", "b_id"])) =
        true := by
    decide +kernel
  obtain ⟨g, compiles, shown⟩ := of_compilesTo passes
  obtain ⟨t, mem, names⟩ := of_decide_eq_true shown
  refine ⟨g, t, compiles, mem, names, (creatable_iff_of_compile compiles mem).mp ⟨?_, ?_⟩⟩
  · intro c cMem empty
    have there : "" ∈ t.columns.map (·.name) := List.mem_map.mpr ⟨c, cMem, empty⟩
    rw [names] at there
    contradiction
  · rw [names]
    decide

/-- Not every table can be created: the identifier takes the name of a column before it. -/
theorem not_all_creatable : ¬∀ text g, compile text = .ok g →
    ∀ t ∈ (Schema.ofGraph g).tables, t.Creatable := by
  intro all
  have passes : compilesTo "**A**\n- A has an Order Date.\n- A is identified by OrderDate.\n"
      (fun g => decide (∃ t ∈ (Schema.ofGraph g).tables,
        t.columns.map (·.name) = ["order_date", "order_date"])) = true := by
    decide +kernel
  obtain ⟨g, compiles, shown⟩ := of_compilesTo passes
  obtain ⟨t, mem, names⟩ := of_decide_eq_true shown
  have apart := (all _ g compiles t mem).apart
  rw [names] at apart
  contradiction

end Mapping

end FactModel
