import FactModel.Proofs.Graph.Soundness
import FactModel.Proofs.Schema.Standing
import FactModel.Proofs.Schema.TableNames
import Mathlib.Data.List.Induction

/-!
# Foreign keys of a mapped graph

A key is made for one relationship, in the table of the entity that holds it, and refers to the
primary key at the other end on a column that the table has.  It is shared only with relationships
to many that state the same link from the other end.  In the ledger of the schema every relationship
stands once: to one, when the table of its source is laid out, and to many afterwards.
-/

namespace FactModel

/-- A table that is looked up is one of the schema, for the entity in question. -/
theorem Schema.of_tableOf {s : Schema} {entity : Nat} {t : Table}
    (table : s.tableOf entity = .ok t) : t ∈ s.tables ∧ t.entity = entity := by
  unfold Schema.tableOf at table
  split at table
  · next found =>
    cases table
    exact ⟨List.mem_of_find?_eq_some found, eq_of_beq (List.find?_some found :)⟩
  · contradiction

namespace Mapping

open ForeignKey

/-- What a key in the table of an entity is.  It is made for a relationship whose key the entity
holds, and shared by relationships to many that reverse this one. -/
structure KeySound (g : Graph) (entity : Nat) (columns : List Column) (k : ForeignKey) : Prop where
  made : ∃ r ∈ g.relationships, r.holder = entity ∧ k.relationship = r.index ∧
    k.refTable = nameOf g r.referred ∧ k.refColumn = (primaryKey g r.referred).name
  shared : ∀ i ∈ k.sharedBy, ∃ r ∈ g.relationships, r.derivable = false ∧ r.index = i ∧
    ∃ own ∈ g.relationships, own.derivable = true ∧ own.index = k.relationship ∧
      own.source = r.target ∧ own.target = r.source
  column : ∃ c ∈ columns, c.name = k.column
  filled : k.column ≠ ""

/-- What the table of an entity is. -/
structure TableSound (g : Graph) (entity : Nat) (t : Table) : Prop where
  owner : t.entity = entity
  named : t.name = nameOf g entity
  primary : t.primaryKey = [(primaryKey g entity).name]
  stored : primaryKey g entity ∈ t.columns
  keys : ∀ k ∈ t.foreignKeys, KeySound g entity t.columns k

theorem KeySound.mono {g : Graph} {entity : Nat} {columns columns' : List Column} {k : ForeignKey}
    (sound : KeySound g entity columns k) (subset : columns ⊆ columns') :
    KeySound g entity columns' k := by
  obtain ⟨c, mem, name⟩ := sound.column
  exact { sound with column := ⟨c, subset mem, name⟩ }

theorem mem_outgoing {g : Graph} {entity : Nat} {r : Relationship} :
    r ∈ g.outgoing entity ↔ r ∈ g.relationships ∧ r.source = entity := by
  simp [Graph.outgoing]

/-- Keys stay sound when the columns grow and a key is made that the entity holds. -/
theorem keys_concat {g : Graph} {entity : Nat} {r : Relationship} (mem : r ∈ g.relationships)
    (holds : r.holder = entity) {columns columns' : List Column} {ks : List ForeignKey}
    (keys : ∀ k ∈ ks, KeySound g entity columns k) (subset : columns ⊆ columns') {name : String}
    (there : ∃ c ∈ columns', c.name = name) (filled : name ≠ "") :
    ∀ k ∈ ks ++ [foreignKey g r.referred r.index name], KeySound g entity columns' k := by
  intro k kMem
  rcases List.mem_append.mp kMem with old | new
  · exact (keys k old).mono subset
  · obtain rfl := List.mem_singleton.mp new
    exact
      { made := ⟨r, mem, holds, rfl, rfl, rfl⟩
        shared := by simp [foreignKey]
        column := there
        filled }

theorem keyName_ne_empty (entity : String) : keyName entity ≠ "" := by
  simp [keyName]

theorem reverseName_ne_empty (g : Graph) (r : Relationship) : reverseName g r ≠ "" := by
  unfold reverseName
  extract_lets name
  split
  · simp
  · exact keyName_ne_empty _

/-! ## Laying out the attributes of an entity -/

/-- The position that an attribute enters in the ledger: that of the relationship for which it is a
reference. -/
def ownRelationship? (g : Graph) (entity : Nat) (a : Attribute) : Option Nat :=
  if a.identifying then none else a.references.map (relationshipTo g entity)

section Attributes

variable {g : Graph} {entity : Nat}

/-- Laying out an attribute keeps the columns.  It makes no key, or the key of a reference, on a
column that is there then. -/
theorem add_cases (g : Graph) (entity : Nat) (l : Layout) (a : Attribute) :
    l.columns ⊆ (l.add g entity a).columns ∧
      ((ownRelationship? g entity a = none ∧ (l.add g entity a).keys = l.keys) ∨
        ∃ target, a.references = some target ∧
          ownRelationship? g entity a = some (relationshipTo g entity target) ∧
          (l.add g entity a).keys = l.keys ++ [foreignKey g target
            (relationshipTo g entity target) (keyName (g.entityName target))] ∧
          ∃ c ∈ (l.add g entity a).columns, c.name = keyName (g.entityName target)) := by
  unfold Layout.add ownRelationship?
  split
  · exact ⟨List.subset_append_left .., .inl ⟨rfl, rfl⟩⟩
  · split
    · next target references =>
      rw [references]
      extract_lets name l'
      have grown : l'.keys = l.keys ∧ l.columns ⊆ l'.columns ∧ ∃ c ∈ l'.columns, c.name = name := by
        simp only [l']
        split
        · next taken =>
          obtain ⟨c, cMem, named⟩ := List.any_eq_true.mp taken
          exact ⟨rfl, fun _ cMem => cMem, c, cMem, eq_of_beq named⟩
        · exact ⟨rfl, List.subset_append_left .., keyColumn g target name a.nullable (some a.index),
            by simp, rfl⟩
      clear_value l'
      obtain ⟨sameKeys, subset, there⟩ := grown
      exact ⟨subset, .inr ⟨target, rfl, rfl, by rw [sameKeys], there⟩⟩
    · next references =>
      rw [references]
      simp only
      split
      · exact ⟨fun _ mem => mem, .inl ⟨rfl, rfl⟩⟩
      · exact ⟨List.subset_append_left .., .inl ⟨rfl, rfl⟩⟩

theorem standing_add (l : Layout) (a : Attribute) :
    standing (l.add g entity a).keys =
      standing l.keys ++ (ownRelationship? g entity a).toList := by
  obtain ⟨-, ⟨none, keys⟩ | ⟨target, -, own, keys, -⟩⟩ := add_cases g entity l a
  · simp [none, keys]
  · simp [own, keys]

theorem standing_foldl_add (g : Graph) (entity : Nat) (l : Layout) (as : List Attribute) :
    standing (as.foldl (Layout.add g entity) l).keys =
      standing l.keys ++ as.filterMap (ownRelationship? g entity) := by
  induction as generalizing l with
  | nil => simp
  | cons a rest ih =>
    rw [List.foldl_cons, ih, standing_add, List.append_assoc, List.filterMap_cons]
    cases ownRelationship? g entity a <;> rfl

theorem columns_foldl_add (l : Layout) (as : List Attribute) :
    l.columns ⊆ (as.foldl (Layout.add g entity) l).columns :=
  List.foldlRecOn (motive := fun l' : Layout => l.columns ⊆ l'.columns) _ _ (fun _ mem => mem)
    fun l' subset a _ => List.Subset.trans subset (add_cases g entity l' a).1

/-- The identifier of an entity is laid out as its primary key. -/
theorem mem_columns_of_identifying (l : Layout) {as : List Attribute} {a : Attribute} (mem : a ∈ as)
    (identifying : a.identifying = true) :
    primaryKey g entity ∈ (as.foldl (Layout.add g entity) l).columns := by
  obtain ⟨before, after, rfl⟩ := List.append_of_mem mem
  rw [List.foldl_append, List.foldl_cons]
  refine columns_foldl_add _ after ?_
  rw [Layout.add, if_pos identifying]
  exact List.mem_append_right _ (List.mem_singleton_self _)

end Attributes

section Compiled

variable {doc : Document} {g : Graph} (compiled : Compiled doc g)

include compiled

theorem holder_lt {r : Relationship} (mem : r ∈ g.relationships) :
    r.holder < g.entities.length := by
  unfold Relationship.holder
  split
  · exact (compiled.ends_lt mem).1
  · exact (compiled.ends_lt mem).2

theorem referred_lt {r : Relationship} (mem : r ∈ g.relationships) :
    r.referred < g.entities.length := by
  unfold Relationship.referred
  split
  · exact (compiled.ends_lt mem).2
  · exact (compiled.ends_lt mem).1

/-- The relationship that a reference attribute stands for. -/
theorem relationshipTo_spec {a : Attribute} (mem : a ∈ g.attributes) {target : Nat}
    (references : a.references = some target) : ∃ r ∈ g.relationships, r.derivable = true ∧
      r.source = a.entity ∧ r.target = target ∧ relationshipTo g a.entity target = r.index := by
  obtain ⟨-, -, r, rMem, derivable, source, isTarget⟩ :=
    compiled.wellFormed.told.reference a mem target references
  rw [relationshipTo]
  cases found : (g.outgoing a.entity).find? fun r => r.target == target && r.derivable with
  | none =>
    have missed := List.find?_eq_none.mp found r (mem_outgoing.mpr ⟨rMem, source⟩)
    simp [isTarget, derivable] at missed
  | some s =>
    obtain ⟨sMem, sSource⟩ := mem_outgoing.mp (List.mem_of_find?_eq_some found)
    have holds := List.find?_some found
    obtain ⟨sTarget, sDerivable⟩ := (Bool.and_eq_true ..).mp holds
    exact ⟨s, sMem, sDerivable, sSource, eq_of_beq sTarget, rfl⟩

theorem ownRelationship?_spec {entity : Nat} {a : Attribute} (mem : a ∈ g.attributesOf entity)
    {i : Nat} (own : ownRelationship? g entity a = some i) : ∃ r ∈ g.relationships,
      r.derivable = true ∧ r.source = entity ∧ r.index = i ∧ a.references = some r.target := by
  obtain ⟨aMem, rfl⟩ := compiled.mem_attributesOf.mp mem
  unfold ownRelationship? at own
  split at own
  · contradiction
  · obtain ⟨target, references, rfl⟩ := Option.map_eq_some_iff.mp own
    obtain ⟨r, rMem, derivable, source, rfl, index⟩ := relationshipTo_spec compiled aMem references
    exact ⟨r, rMem, derivable, source, index.symm, references⟩

/-- No two attributes of an entity are references for the same relationship. -/
theorem nodup_ownRelationships (entity : Nat) :
    ((g.attributesOf entity).filterMap (ownRelationship? g entity)).Nodup := by
  have nodup : (g.attributesOf entity).Nodup := by
    rw [compiled.attributesOf_eq]
    exact compiled.wellFormed.placed.attributeIndex.nodup.filter _
  refine List.pairwise_filterMap.mpr (nodup.imp_of_mem ?_)
  rintro a b aMem bMem differs i ofA _ ofB rfl
  obtain ⟨r, rMem, -, -, rIndex, aRefers⟩ := ownRelationship?_spec compiled aMem ofA
  obtain ⟨s, sMem, -, -, sIndex, bRefers⟩ := ownRelationship?_spec compiled bMem ofB
  obtain rfl := compiled.eq_of_index rMem sMem (rIndex.trans sIndex.symm)
  obtain ⟨aMem, aOwner⟩ := compiled.mem_attributesOf.mp aMem
  obtain ⟨bMem, bOwner⟩ := compiled.mem_attributesOf.mp bMem
  refine differs (compiled.eq_of_key aMem bMem (aOwner.trans bOwner.symm) ?_)
  rw [compiled.name_of_references aMem aRefers, compiled.name_of_references bMem bRefers]

theorem keys_add {entity : Nat} {l : Layout} {a : Attribute} (mem : a ∈ g.attributesOf entity)
    (keys : ∀ k ∈ l.keys, KeySound g entity l.columns k) :
    ∀ k ∈ (l.add g entity a).keys, KeySound g entity (l.add g entity a).columns k := by
  obtain ⟨subset, ⟨-, same⟩ | ⟨target, references, -, made, there⟩⟩ := add_cases g entity l a
  · rw [same]
    exact fun k kMem => (keys k kMem).mono subset
  · obtain ⟨aMem, rfl⟩ := compiled.mem_attributesOf.mp mem
    obtain ⟨r, rMem, derivable, source, rfl, index⟩ := relationshipTo_spec compiled aMem references
    rw [made, index, ← r.referred_of_derivable derivable]
    refine keys_concat rMem ((r.holder_of_derivable derivable).trans source) keys subset ?_ ?_
    · rw [r.referred_of_derivable derivable]
      exact there
    · exact keyName_ne_empty _

end Compiled

/-! ## Laying out the relationships of an entity -/

section Relationships

variable {g : Graph}

/-- Laying out a relationship keeps the columns.  It does nothing, or it makes a key for a
relationship to one that is not backed. -/
theorem addShadowed_cases (g : Graph) (l : Layout) (r : Relationship) :
    ((r.derivable = true → r.index ∈ standing l.keys) ∧ l.addShadowed g r = l) ∨
      (r.derivable = true ∧ r.index ∉ standing l.keys ∧
        ∃ name, (l.addShadowed g r).keys = l.keys ++ [foreignKey g r.target r.index name] ∧
          l.columns ⊆ (l.addShadowed g r).columns ∧
          (∃ c ∈ (l.addShadowed g r).columns, c.name = name) ∧ name ≠ "") := by
  unfold Layout.addShadowed
  split
  · next settled =>
    refine .inl ⟨fun derivable => ?_, rfl⟩
    simpa [derivable, mem_standing] using settled
  · next unsettled =>
    simp only [Bool.or_eq_true, Bool.not_eq_true', not_or] at unsettled
    obtain ⟨derivable, unbacked⟩ := unsettled
    refine .inr ⟨by simpa using derivable, ?_, _, rfl, List.subset_append_left ..,
      ⟨keyColumn g r.target _ true none, by simp, rfl⟩, by simp⟩
    rw [mem_standing]
    exact fun backed => unbacked (List.any_eq_true.mpr backed)

/-- What a table keeps while the relationships of its entity are laid out. -/
theorem keys_addShadowed {entity : Nat} {l : Layout} {r : Relationship}
    (mem : r ∈ g.outgoing entity) (keys : ∀ k ∈ l.keys, KeySound g entity l.columns k) :
    ∀ k ∈ (l.addShadowed g r).keys, KeySound g entity (l.addShadowed g r).columns k := by
  obtain ⟨rMem, source⟩ := mem_outgoing.mp mem
  rcases addShadowed_cases g l r with ⟨-, same⟩ | ⟨derivable, -, name, made, subset, there, filled⟩
  · rw [same]
    exact keys
  · rw [made, ← r.referred_of_derivable derivable]
    exact keys_concat rMem ((r.holder_of_derivable derivable).trans source) keys subset there filled

theorem columns_foldl_addShadowed (l : Layout) (rs : List Relationship) :
    l.columns ⊆ (rs.foldl (Layout.addShadowed g) l).columns := by
  refine List.foldlRecOn (motive := fun l' : Layout => l.columns ⊆ l'.columns) _ _
    (fun _ mem => mem) fun l' subset r _ => ?_
  rcases addShadowed_cases g l' r with ⟨-, same⟩ | ⟨-, -, name, -, grown, -⟩
  · rw [same]
    exact subset
  · exact List.Subset.trans subset grown

/-- All relationships to one get into the ledger, and nothing gets there twice. -/
theorem standing_foldl_addShadowed {l : Layout} (nodup : (standing l.keys).Nodup)
    (rs : List Relationship) :
    (standing (rs.foldl (Layout.addShadowed g) l).keys).Nodup ∧
      ∀ i, i ∈ standing (rs.foldl (Layout.addShadowed g) l).keys ↔
        i ∈ standing l.keys ∨ ∃ r ∈ rs, r.derivable = true ∧ r.index = i := by
  induction rs generalizing l with
  | nil => simpa using nodup
  | cons r rest ih =>
    rcases addShadowed_cases g l r with ⟨settled, same⟩ | ⟨derivable, new, name, made, -, -⟩
    · obtain ⟨restNodup, restMem⟩ := ih nodup
      rw [List.foldl_cons, same]
      refine ⟨restNodup, fun i => (restMem i).trans ?_⟩
      simp only [List.exists_mem_cons_iff]
      have here : r.derivable = true ∧ r.index = i → i ∈ standing l.keys :=
        fun ⟨derivable, index⟩ => index ▸ settled derivable
      tauto
    · have added : standing (l.addShadowed g r).keys = standing l.keys ++ [r.index] := by
        simp [made]
      have grownNodup : (standing (l.addShadowed g r).keys).Nodup := by
        rw [added]
        refine List.nodup_append.mpr ⟨nodup, List.nodup_singleton _, ?_⟩
        rintro i there _ here rfl
        exact new (List.mem_singleton.mp here ▸ there)
      obtain ⟨restNodup, restMem⟩ := ih grownNodup
      rw [List.foldl_cons]
      refine ⟨restNodup, fun i => (restMem i).trans ?_⟩
      simp only [added, List.mem_append, List.mem_singleton, List.exists_mem_cons_iff, derivable,
        true_and, or_assoc, eq_comm]

end Relationships

/-! ## The table of an entity -/

theorem primaryKey_mem_columns (g : Graph) (entity : Nat) :
    primaryKey g entity ∈ (layoutOf g entity).columns := by
  refine columns_foldl_addShadowed _ _ ?_
  cases found : g.identifier? entity with
  | none =>
    refine columns_foldl_add _ _ ?_
    simp [primaryKey, found]
  | some a =>
    exact mem_columns_of_identifying _ (List.mem_of_find?_eq_some found)
      (List.find?_some found :)

section Tables

variable {doc : Document} {g : Graph} (compiled : Compiled doc g)

include compiled

/-- The identifier of an entity is the attribute that identifies it. -/
theorem identifier?_eq_some {entity : Nat} {a : Attribute} (mem : a ∈ g.attributesOf entity)
    (identifies : a.identifying = true) : g.identifier? entity = some a := by
  have there : (g.identifier? entity).isSome = true := List.find?_isSome.mpr ⟨a, mem, identifies⟩
  obtain ⟨b, found⟩ := Option.isSome_iff_exists.mp there
  obtain ⟨aMem, aOwner⟩ := compiled.mem_attributesOf.mp mem
  obtain ⟨bMem, bOwner⟩ := compiled.mem_attributesOf.mp (List.mem_of_find?_eq_some found)
  rw [found, compiled.wellFormed.placed.attributeIndex.eq_of_index bMem aMem
    (compiled.wellFormed.apart.identifiers b bMem a aMem (bOwner.trans aOwner.symm)
      (List.find?_some found :) identifies)]

theorem tableSound_tableOf (entity : Nat) : TableSound g entity (tableOf g entity) where
  owner := rfl
  named := rfl
  primary := rfl
  stored := primaryKey_mem_columns g entity
  keys := by
    refine List.foldlRecOn (motive := fun l : Layout =>
      ∀ k ∈ l.keys, KeySound g entity l.columns k) _ _ ?_
      (fun l keys r mem => keys_addShadowed mem keys)
    exact List.foldlRecOn (motive := fun l : Layout =>
      ∀ k ∈ l.keys, KeySound g entity l.columns k) _ _ (by simp)
      (fun l keys a mem => keys_add compiled mem keys)

/-- The ledger of a table that was laid out: the relationships to one from its entity. -/
theorem standing_tableOf (entity : Nat) : (standing (tableOf g entity).foreignKeys).Nodup ∧
    ∀ i, i ∈ standing (tableOf g entity).foreignKeys ↔
      ∃ r ∈ g.relationships, r.source = entity ∧ r.derivable = true ∧ r.index = i := by
  have own := standing_foldl_add g entity
    { columns := if (primaryKey g entity).attr.isNone then [primaryKey g entity] else [],
      keys := [], notes := [] } (g.attributesOf entity)
  rw [standing_nil, List.nil_append] at own
  obtain ⟨nodup, mem⟩ := standing_foldl_addShadowed (g := g)
    (own ▸ nodup_ownRelationships compiled entity) (g.outgoing entity)
  refine ⟨nodup, fun i => (mem i).trans ?_⟩
  rw [own, List.mem_filterMap]
  simp only [mem_outgoing]
  constructor
  · rintro (⟨a, aMem, ofA⟩ | ⟨r, ⟨rMem, source⟩, derivable, index⟩)
    · obtain ⟨r, rMem, derivable, source, index, -⟩ := ownRelationship?_spec compiled aMem ofA
      exact ⟨r, rMem, source, derivable, index⟩
    · exact ⟨r, rMem, source, derivable, index⟩
  · rintro ⟨r, rMem, source, derivable, index⟩
    exact .inr ⟨r, ⟨rMem, source⟩, derivable, index⟩

/-! ## Relationships to many -/

/-- A relationship to many that the ledger does not have shares a key only with a relationship that
it reverses. -/
theorem TableSound.addReverse {t : Table} {r : Relationship} (mem : r ∈ g.relationships)
    (many : r.derivable = false) (sound : TableSound g r.target t)
    (fresh : r.index ∉ standing t.foreignKeys) : TableSound g r.target (addReverse g r t) := by
  unfold Mapping.addReverse
  extract_lets name isShared columns
  split
  · refine ⟨sound.owner, sound.named, sound.primary, sound.stored, ?_⟩
    intro k kMem
    rcases mem_share kMem with old | ⟨old, oldMem, chosen, rfl⟩
    · exact sound.keys k old
    · obtain ⟨s, sMem, holds, made, refTable, -⟩ := (sound.keys old oldMem).made
      have reverses : s.referred = r.source := by
        simp only [isShared, Bool.and_eq_true, beq_iff_eq] at chosen
        exact nameOf_injective (referred_lt compiled sMem) (compiled.ends_lt mem).1
          (refTable.symm.trans chosen.2)
      have derivable : s.derivable = true := by
        by_contra notDerivable
        rw [Bool.not_eq_true] at notDerivable
        rw [s.holder_of_not_derivable notDerivable] at holds
        rw [s.referred_of_not_derivable notDerivable] at reverses
        have same := compiled.wellFormed.apart.links s sMem r mem reverses holds
          (notDerivable.trans many.symm)
        refine fresh (mem_standing.mpr ⟨old, oldMem, backs_iff.mpr ?_⟩)
        rw [ForeignKey.stands, made, same]
        exact List.mem_cons_self
      rw [s.holder_of_derivable derivable] at holds
      rw [s.referred_of_derivable derivable] at reverses
      refine { sound.keys old oldMem with shared := ?_ }
      intro i iMem
      rcases List.mem_append.mp iMem with before | now
      · exact (sound.keys old oldMem).shared i before
      · exact ⟨r, mem, many, (List.mem_singleton.mp now).symm, s, sMem, derivable, made.symm,
          holds, reverses⟩
  · have grown : t.columns ⊆ columns ∧ ∃ c ∈ columns, c.name = name := by
      simp only [columns]
      split
      · next taken =>
        obtain ⟨c, cMem, named⟩ := List.any_eq_true.mp taken
        exact ⟨fun _ cMem => cMem, c, cMem, eq_of_beq named⟩
      · exact ⟨List.subset_append_left .., keyColumn g r.source name true none, by simp, rfl⟩
    refine ⟨sound.owner, sound.named, sound.primary, grown.1 sound.stored, ?_⟩
    simp only
    rw [← r.referred_of_not_derivable many]
    exact keys_concat mem (r.holder_of_not_derivable many) sound.keys grown.1 grown.2
      (reverseName_ne_empty g r)

/-! ## The schema -/

/-- What has been done when some relationships to many have been laid out. -/
structure Mapped (g : Graph) (rs : List Relationship) (ts : List Table) : Prop where
  length : ts.length = g.entities.length
  sound : ∀ i t, ts[i]? = some t → TableSound g i t
  ledger : (standing (ts.flatMap (·.foreignKeys))).Perm
    ((g.relationships.filter (·.derivable) ++ rs).map (·.index))

omit compiled in
theorem mem_standing_tables {ts : List Table} {i : Nat} :
    i ∈ standing (ts.flatMap (·.foreignKeys)) ↔ ∃ t ∈ ts, i ∈ standing t.foreignKeys := by
  simp only [standing, List.flatMap_assoc, List.mem_flatMap]

theorem mapped_nil : Mapped g [] (g.entities.map fun e => tableOf g e.index) where
  length := List.length_map ..
  sound := by
    intro i t found
    rw [List.getElem?_map, Option.map_eq_some_iff] at found
    obtain ⟨e, eFound, rfl⟩ := found
    rw [compiled.wellFormed.placed.entityIndex i e eFound]
    exact tableSound_tableOf compiled i
  ledger := by
    have indexed := compiled.wellFormed.apart.relationshipIndex
    rw [List.append_nil, List.flatMap_map]
    refine (List.perm_ext_iff_of_nodup ?_ (indexed.nodup_map_filter _)).mpr fun i => ?_
    · rw [standing, List.flatMap_assoc]
      refine List.nodup_flatMap.mpr ⟨fun e _ => (standing_tableOf compiled e.index).1, ?_⟩
      have apart := compiled.wellFormed.placed.entityIndex.nodup_map
      refine (List.pairwise_map.mp apart).imp fun {e f} differs => ?_
      intro i ofE ofF
      obtain ⟨r, rMem, rSource, -, rIndex⟩ := ((standing_tableOf compiled e.index).2 i).mp ofE
      obtain ⟨s, sMem, sSource, -, sIndex⟩ := ((standing_tableOf compiled f.index).2 i).mp ofF
      rw [compiled.eq_of_index rMem sMem (rIndex.trans sIndex.symm), sSource] at rSource
      exact differs rSource.symm
    · rw [standing, List.flatMap_assoc, List.mem_flatMap]
      constructor
      · rintro ⟨e, -, there⟩
        obtain ⟨r, rMem, -, derivable, rfl⟩ := ((standing_tableOf compiled e.index).2 i).mp there
        exact List.mem_map_of_mem (List.mem_filter.mpr ⟨rMem, derivable⟩)
      · intro there
        obtain ⟨r, rMem, rfl⟩ := List.mem_map.mp there
        obtain ⟨rMem, derivable⟩ := List.mem_filter.mp rMem
        have bound := (compiled.ends_lt rMem).1
        refine ⟨g.entities[r.source], List.getElem_mem bound, ?_⟩
        refine ((standing_tableOf compiled _).2 _).mpr ⟨r, rMem, ?_, derivable, rfl⟩
        exact (compiled.wellFormed.placed.entityIndex _ _ (List.getElem?_eq_getElem bound)).symm

theorem Mapped.concat {rs : List Relationship} {ts : List Table} (mapped : Mapped g rs ts)
    {r : Relationship} (upto : rs ++ [r] <+: toMany g) :
    Mapped g (rs ++ [r]) (ts.modify r.target (addReverse g r)) := by
  have nodup : (rs ++ [r]).Nodup :=
    upto.sublist.nodup (compiled.wellFormed.apart.relationshipIndex.nodup.filter _)
  have isMany (s : Relationship) (there : s ∈ rs ++ [r]) :
      s ∈ g.relationships ∧ s.derivable = false := by
    obtain ⟨sMem, many⟩ := List.mem_filter.mp (upto.subset there)
    rw [s.isToMany_iff] at many
    exact ⟨sMem, by simpa using many⟩
  obtain ⟨rMem, many⟩ := isMany r (by simp)
  have fresh : r.index ∉ standing (ts.flatMap (·.foreignKeys)) := by
    rw [mapped.ledger.mem_iff, List.mem_map]
    rintro ⟨s, sMem, same⟩
    rcases List.mem_append.mp sMem with toOne | before
    · obtain ⟨sMem, derivable⟩ := List.mem_filter.mp toOne
      rw [compiled.eq_of_index sMem rMem same, many] at derivable
      contradiction
    · have sMem := (isMany s (List.mem_append_left _ before)).1
      rw [compiled.eq_of_index sMem rMem same] at before
      exact (List.nodup_append.mp nodup).2.2 r before r (by simp) rfl
  refine ⟨by rw [List.length_modify, mapped.length], ?_, ?_⟩
  · intro i t found
    rw [List.getElem?_modify, Option.map_eq_map, Option.map_eq_some_iff] at found
    obtain ⟨old, oldFound, rfl⟩ := found
    split
    · next here =>
      subst here
      refine (mapped.sound _ old oldFound).addReverse compiled rMem many fun there => fresh ?_
      exact mem_standing_tables.mpr ⟨old, List.mem_of_getElem? oldFound, there⟩
    · exact mapped.sound i old oldFound
  · have bound : r.target < ts.length := mapped.length ▸ (compiled.ends_lt rMem).2
    refine (standing_modify bound (standing_addReverse g r)).trans ?_
    rw [← List.append_assoc, List.map_append, List.map_singleton]
    exact (mapped.ledger.cons _).trans (List.perm_append_singleton _ _).symm

/-- Every relationship stands once in the ledger of the schema, whose tables are sound. -/
theorem mapped_ofGraph : Mapped g (toMany g) (Schema.ofGraph g).tables := by
  have upto (rs : List Relationship) : rs <+: toMany g → Mapped g rs
      (rs.foldl (fun ts r => ts.modify r.target (addReverse g r))
        (g.entities.map fun e => tableOf g e.index)) := by
    induction rs using List.reverseRecOn with
    | nil => exact fun _ => mapped_nil compiled
    | append_singleton rs r ih =>
      intro upto
      rw [List.foldl_append]
      exact (ih ((List.prefix_append rs [r]).trans upto)).concat compiled upto
  exact upto (toMany g) (List.prefix_refl _)

/-- The ledger of the schema. -/
theorem standing_ofGraph : (standing ((Schema.ofGraph g).tables.flatMap (·.foreignKeys))).Perm
    (g.relationships.map (·.index)) := by
  refine (mapped_ofGraph compiled).ledger.trans (List.Perm.map _ ?_)
  have others : toMany g = g.relationships.filter fun r => !r.derivable :=
    List.filter_congr fun r _ => r.isToMany_iff
  rw [others]
  exact List.filter_append_perm _ _

/-- There is a table for each entity, in their order. -/
theorem tables_indexed : Arena.Indexed Table.entity (Schema.ofGraph g).tables :=
  fun i t found => ((mapped_ofGraph compiled).sound i t found).owner

theorem tableSound_of_mem {t : Table} (mem : t ∈ (Schema.ofGraph g).tables) :
    t.entity < g.entities.length ∧ TableSound g t.entity t := by
  have mapped := mapped_ofGraph compiled
  have indexed := tables_indexed compiled
  exact ⟨mapped.length ▸ indexed.lt_length mem, mapped.sound t.entity t (indexed.getElem? mem)⟩

/-- Every entity has a table, and only one. -/
theorem tableOf_eq_ok {entity : Nat} (inGraph : entity < g.entities.length) :
    ∃ t ∈ (Schema.ofGraph g).tables, (Schema.ofGraph g).tableOf entity = .ok t ∧
      TableSound g entity t ∧ ∀ u ∈ (Schema.ofGraph g).tables, u.entity = entity → u = t := by
  have mapped := mapped_ofGraph compiled
  rw [Schema.tableOf]
  cases found : (Schema.ofGraph g).tables.find? (·.entity == entity) with
  | none =>
    have bound : entity < (Schema.ofGraph g).tables.length := mapped.length ▸ inGraph
    have missed := List.find?_eq_none.mp found _ (List.getElem_mem bound)
    have owner := (mapped.sound entity _ (List.getElem?_eq_getElem bound)).owner
    simp [owner] at missed
  | some t =>
    have mem := List.mem_of_find?_eq_some found
    have owner : t.entity = entity := eq_of_beq (List.find?_some found :)
    refine ⟨t, mem, rfl, owner ▸ (tableSound_of_mem compiled mem).2, fun u uMem uOwner => ?_⟩
    exact (tables_indexed compiled).eq_of_index uMem mem (uOwner.trans owner.symm)

/-- A key that backs a relationship refers from the entity that holds it to the other end. -/
theorem KeySound.of_backs {entity : Nat} {columns : List Column} {k : ForeignKey}
    (sound : KeySound g entity columns k) {r : Relationship} (mem : r ∈ g.relationships)
    (backs : k.backs r.index = true) : r.holder = entity ∧
      k.refTable = nameOf g r.referred ∧ k.refColumn = (primaryKey g r.referred).name := by
  obtain ⟨made, madeMem, holds, index, refTable, refColumn⟩ := sound.made
  rcases List.mem_cons.mp (backs_iff.mp backs) with own | shared
  · rw [compiled.eq_of_index mem madeMem (own.trans index)]
    exact ⟨holds, refTable, refColumn⟩
  · obtain ⟨s, sMem, many, sIndex, own, ownMem, derivable, ownIndex, source, isTarget⟩ :=
      sound.shared r.index shared
    obtain rfl := compiled.eq_of_index madeMem ownMem (index.symm.trans ownIndex.symm)
    rw [compiled.eq_of_index mem sMem sIndex.symm, s.holder_of_not_derivable many,
      s.referred_of_not_derivable many, ← source, ← isTarget]
    rw [made.holder_of_derivable derivable] at holds
    rw [made.referred_of_derivable derivable] at refTable refColumn
    exact ⟨holds, refTable, refColumn⟩

/-- Just one key backs a relationship. -/
theorem countP_backs_eq_one {r : Relationship} (mem : r ∈ g.relationships) :
    ((Schema.ofGraph g).tables.flatMap (·.foreignKeys)).countP (·.backs r.index) = 1 := by
  have nodup : (g.relationships.map (·.index)).Nodup :=
    compiled.wellFormed.apart.relationshipIndex.nodup_map
  have ledger := standing_ofGraph compiled
  rw [countP_backs (ledger.nodup_iff.mpr nodup), ledger.count_eq]
  exact List.count_eq_one_of_mem nodup (List.mem_map_of_mem mem)

/-- The key that backs a relationship stands in the table of the entity that holds it, on a column
of this table, and refers to the primary key of the other end. -/
theorem keyFor?_eq_some_of_mem {r : Relationship} (mem : r ∈ g.relationships) :
    ∃ k t, (Schema.ofGraph g).keyFor? r.index = some k ∧
      (Schema.ofGraph g).tableOf r.holder = .ok t ∧ t ∈ (Schema.ofGraph g).tables ∧
      k ∈ t.foreignKeys ∧ k.backs r.index = true ∧ (∃ c ∈ t.columns, c.name = k.column) ∧
      k.refTable = nameOf g r.referred ∧ k.refColumn = (primaryKey g r.referred).name := by
  have backed : ((Schema.ofGraph g).keyFor? r.index).isSome = true := by
    rw [Schema.keyFor?, List.find?_isSome, ← List.countP_pos_iff, countP_backs_eq_one compiled mem]
    exact Nat.one_pos
  obtain ⟨k, found⟩ := Option.isSome_iff_exists.mp backed
  have backs : k.backs r.index = true := (List.find?_some found :)
  obtain ⟨t, tMem, kMem⟩ := List.mem_flatMap.mp (List.mem_of_find?_eq_some found)
  obtain ⟨inGraph, sound⟩ := tableSound_of_mem compiled tMem
  obtain ⟨holds, refTable, refColumn⟩ := (sound.keys k kMem).of_backs compiled mem backs
  obtain ⟨u, -, table, -, only⟩ := tableOf_eq_ok compiled inGraph
  obtain rfl := only t tMem rfl
  exact ⟨k, t, found, holds ▸ table, tMem, kMem, backs, (sound.keys k kMem).column, refTable,
    refColumn⟩

/-- A relationship to one is backed by a key of its source to the primary key of its target. -/
theorem keyFor?_eq_some {r : Relationship} (mem : r ∈ g.relationships)
    (derivable : r.derivable = true) : ∃ k t, (Schema.ofGraph g).keyFor? r.index = some k ∧
      (Schema.ofGraph g).tableOf r.source = .ok t ∧ k ∈ t.foreignKeys ∧
      (∃ c ∈ t.columns, c.name = k.column) ∧ k.refTable = nameOf g r.target ∧
      k.refColumn = (primaryKey g r.target).name := by
  obtain ⟨k, t, found, table, -, kMem, -, column, refTable, refColumn⟩ :=
    keyFor?_eq_some_of_mem compiled mem
  rw [r.holder_of_derivable derivable] at table
  rw [r.referred_of_derivable derivable] at refTable refColumn
  exact ⟨k, t, found, table, kMem, column, refTable, refColumn⟩

end Tables

end Mapping

end FactModel
