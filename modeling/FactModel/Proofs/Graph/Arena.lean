import FactModel.Graph.Basic
import Mathlib.Data.List.Nodup

/-!
# Arenas of elements

Entities, attributes and relationships live in three lists and refer to each other by position.
This module states when such lists fit together and shows which changes of a list keep them so:
appending an element, replacing one by a variant, and entering a new attribute with its owner.

The conditions come in three groups, because the changes made while facts are attached break and
restore them at different moments.  `Placed` is about positions and owners, `Apart` about elements
that no two of a kind may be, and `Told` ties reference attributes to relationships.
-/

namespace FactModel.Arena

/-! ## Positions -/

/-- Every element carries its own position. -/
def Indexed {α : Type} (index : α → Nat) (l : List α) : Prop :=
  ∀ i a, l[i]? = some a → index a = i

section Indexed

variable {α β : Type} {index : α → Nat} {l : List α}

theorem Indexed.getElem? (indexed : Indexed index l) {a : α} (mem : a ∈ l) :
    l[index a]? = some a := by
  obtain ⟨i, found⟩ := List.mem_iff_getElem?.mp mem
  rw [indexed i a found]
  exact found

theorem Indexed.lt_length (indexed : Indexed index l) {a : α} (mem : a ∈ l) :
    index a < l.length := by
  obtain ⟨bound, -⟩ := List.getElem?_eq_some_iff.mp (indexed.getElem? mem)
  exact bound

/-- Elements at the same position are the same. -/
theorem Indexed.eq_of_index (indexed : Indexed index l) {a b : α} (aMem : a ∈ l) (bMem : b ∈ l)
    (same : index a = index b) : a = b := by
  have aFound := indexed.getElem? aMem
  rw [same, indexed.getElem? bMem] at aFound
  exact (Option.some.inj aFound).symm

theorem Indexed.map_eq_range (indexed : Indexed index l) : l.map index = List.range l.length := by
  refine List.ext_getElem (by simp) fun i iBound _ => ?_
  rw [List.length_map] at iBound
  simpa using indexed i l[i] (by simp [iBound])

/-- The elements stand in order of position. -/
theorem Indexed.pairwise (indexed : Indexed index l) : l.Pairwise fun a b => index a < index b := by
  rw [← List.pairwise_map, indexed.map_eq_range]
  exact List.pairwise_lt_range

theorem Indexed.nodup_map (indexed : Indexed index l) : (l.map index).Nodup := by
  rw [indexed.map_eq_range]
  exact List.nodup_range

theorem Indexed.nodup (indexed : Indexed index l) : l.Nodup :=
  List.Nodup.of_map index indexed.nodup_map

theorem Indexed.nodup_map_filter (indexed : Indexed index l) (p : α → Bool) :
    ((l.filter p).map index).Nodup :=
  (List.filter_sublist.map index).nodup indexed.nodup_map

theorem Indexed.concat (indexed : Indexed index l) {a : α} (last : index a = l.length) :
    Indexed index (l ++ [a]) := by
  intro i b found
  rw [List.getElem?_append] at found
  split at found
  · exact indexed i b found
  · next beyond =>
    rw [List.getElem?_singleton] at found
    split at found
    · obtain rfl := Option.some.inj found
      omega
    · contradiction

/-- Positions depend on nothing but the positions that the elements carry. -/
theorem Indexed.congr (indexed : Indexed index l) {l' : List α}
    (same : l'.map index = l.map index) : Indexed index l' := by
  intro i b found
  have carried : (l.map index)[i]? = some (index b) := by
    rw [← same, List.getElem?_map, found]
    rfl
  rw [List.getElem?_map, Option.map_eq_some_iff] at carried
  obtain ⟨a, aFound, aIndex⟩ := carried
  rw [← aIndex]
  exact indexed i a aFound

/-- Of repeated elements one is left. -/
theorem nodup_eraseDups {α : Type} [BEq α] [LawfulBEq α] (l : List α) : l.eraseDups.Nodup := by
  match l with
  | [] => exact List.nodup_nil
  | a :: rest =>
    rw [List.eraseDups_cons, List.nodup_cons, List.mem_eraseDups]
    exact ⟨by simp, nodup_eraseDups _⟩
termination_by l.length
decreasing_by exact Nat.lt_succ_of_le (List.length_filter_le ..)

/-- Replacing an element by one that looks the same to `f` changes nothing that `f` shows. -/
theorem map_set_of_eq {f : α → β} {i : Nat} {old new : α} (found : l[i]? = some old)
    (same : f new = f old) : (l.set i new).map f = l.map f := by
  obtain ⟨bound, rfl⟩ := List.getElem?_eq_some_iff.mp found
  have mapBound : i < (l.map f).length := by simpa using bound
  have shown : f l[i] = (l.map f)[i] := (List.getElem_map f).symm
  rw [List.map_set, same, shown, List.set_getElem_self]

theorem map_modify_of_eq {f : α → β} {g : α → α} (same : ∀ a, f (g a) = f a) (i : Nat) :
    (l.modify i g).map f = l.map f := by
  apply List.ext_getElem?
  intro j
  simp only [List.getElem?_map, List.getElem?_modify]
  split <;> cases l[j]? <;> simp [same]

end Indexed

/-! ## What fits together -/

/-- Elements stand where their positions say, and every entity lists its attributes in order. -/
structure Placed (entities : List Entity) (attributes : List Attribute) : Prop where
  entityIndex : Indexed Entity.index entities
  attributeIndex : Indexed Attribute.index attributes
  listed : ∀ e ∈ entities,
    e.attributeIds = (attributes.filter (·.entity == e.index)).map (·.index)
  ownerBound : ∀ a ∈ attributes, a.entity < entities.length

/-- The name at a position. -/
def nameAt (names : List String) (i : Nat) : String :=
  (names[i]?).getD ""

/-- No two entities, no two attributes of one entity, and no two relationships of one kind between
the same entities are told apart by nothing; references are plain attributes. -/
structure Apart (names : List String) (attributes : List Attribute)
    (relationships : List Relationship) : Prop where
  keys : (names.map Name.key).Nodup
  attributeKeys : ∀ a ∈ attributes, ∀ b ∈ attributes, a.entity = b.entity →
    Name.key a.name = Name.key b.name → a.index = b.index
  identifiers : ∀ a ∈ attributes, ∀ b ∈ attributes, a.entity = b.entity →
    a.identifying = true → b.identifying = true → a.index = b.index
  referenceType : ∀ a ∈ attributes, a.type = .reference ↔ a.references.isSome = true
  referencePlain : ∀ a ∈ attributes, a.references.isSome = true → a.identifying = false
  relationshipIndex : Indexed Relationship.index relationships
  ends : ∀ r ∈ relationships, r.source < names.length ∧ r.target < names.length
  links : ∀ r ∈ relationships, ∀ s ∈ relationships, r.source = s.source → r.target = s.target →
    r.derivable = s.derivable → r.index = s.index

/-- A reference attribute is named after its target and comes with a relationship, and for every
derivable relationship the source has an attribute of the target's name. -/
structure Told (names : List String) (attributes : List Attribute)
    (relationships : List Relationship) : Prop where
  reference : ∀ a ∈ attributes, ∀ target, a.references = some target →
    target < names.length ∧ a.name = nameAt names target ∧
      ∃ r ∈ relationships, r.derivable = true ∧ r.source = a.entity ∧ r.target = target
  derivable : ∀ r ∈ relationships, r.derivable = true →
    ∃ a ∈ attributes, a.entity = r.source ∧ Name.key a.name = Name.key (nameAt names r.target)

/-! ## Names -/

section Names

variable {names : List String} {name : String}

theorem nameAt_map {α : Type} (name : α → String) (l : List α) (i : Nat) :
    nameAt (l.map name) i = ((l[i]?).map name).getD "" := by
  rw [nameAt, List.getElem?_map]

theorem nameAt_concat_of_lt {i : Nat} (bound : i < names.length) :
    nameAt (names ++ [name]) i = nameAt names i := by
  simp only [nameAt, List.getElem?_append_left bound]

/-- Entities are told apart by the keys of their names. -/
theorem eq_of_key_nameAt (keys : (names.map Name.key).Nodup) {i j : Nat}
    (iBound : i < names.length) (jBound : j < names.length)
    (same : Name.key (nameAt names i) = Name.key (nameAt names j)) : i = j := by
  have iBound' : i < (names.map Name.key).length := by simpa using iBound
  have jBound' : j < (names.map Name.key).length := by simpa using jBound
  have sameKey : (names.map Name.key)[i] = (names.map Name.key)[j] := by
    simpa [nameAt, iBound, jBound] using same
  exact (List.Nodup.getElem_inj_iff keys).mp sameKey

end Names

/-! ## Changes that keep elements in place -/

section Placed

variable {entities entities' : List Entity} {attributes attributes' : List Attribute}

/-- Places depend on nothing but positions and owners. -/
theorem Placed.congr (placed : Placed entities attributes)
    (sameEntities : entities'.map (fun e => (e.index, e.attributeIds)) =
      entities.map fun e => (e.index, e.attributeIds))
    (sameAttributes : attributes'.map (fun a => (a.entity, a.index)) =
      attributes.map fun a => (a.entity, a.index)) : Placed entities' attributes' := by
  have sameLength : entities'.length = entities.length := by
    simpa using congrArg List.length sameEntities
  have sameIds (k : Nat) : (attributes'.filter (·.entity == k)).map (·.index) =
      (attributes.filter (·.entity == k)).map (·.index) := by
    have shown (l : List Attribute) : (l.filter (·.entity == k)).map (·.index) =
        ((l.map fun a => (a.entity, a.index)).filter (·.1 == k)).map (·.2) := by
      rw [List.filter_map, List.map_map]
      rfl
    rw [shown, shown, sameAttributes]
  constructor
  · apply placed.entityIndex.congr
    simpa [Function.comp_def] using congrArg (List.map Prod.fst) sameEntities
  · apply placed.attributeIndex.congr
    simpa [Function.comp_def] using congrArg (List.map Prod.snd) sameAttributes
  · intro e mem
    have shown : (e.index, e.attributeIds) ∈ entities.map fun e => (e.index, e.attributeIds) := by
      rw [← sameEntities]
      exact List.mem_map_of_mem mem
    obtain ⟨old, oldMem, oldEq⟩ := List.mem_map.mp shown
    obtain ⟨indexEq, idsEq⟩ := Prod.mk.inj oldEq
    rw [sameIds, ← idsEq, ← indexEq]
    exact placed.listed old oldMem
  · intro a mem
    have shown : (a.entity, a.index) ∈ attributes.map fun a => (a.entity, a.index) := by
      rw [← sameAttributes]
      exact List.mem_map_of_mem mem
    obtain ⟨old, oldMem, oldEq⟩ := List.mem_map.mp shown
    rw [sameLength, ← (Prod.mk.inj oldEq).1]
    exact placed.ownerBound old oldMem

theorem Placed.addEntity (placed : Placed entities attributes) {e : Entity}
    (last : e.index = entities.length) (bare : e.attributeIds = []) :
    Placed (entities ++ [e]) attributes := by
  constructor
  · exact placed.entityIndex.concat last
  · exact placed.attributeIndex
  · intro e' mem
    rcases List.mem_append.mp mem with old | new
    · exact placed.listed e' old
    · obtain rfl := List.mem_singleton.mp new
      have none : attributes.filter (·.entity == e'.index) = [] := by
        rw [List.filter_eq_nil_iff]
        intro a aMem
        have := placed.ownerBound a aMem
        simp only [beq_iff_eq]
        omega
      rw [bare, none]
      rfl
  · intro a mem
    have := placed.ownerBound a mem
    rw [List.length_append]
    omega

/-- A new attribute is entered at the end, and in the list of its owner. -/
theorem Placed.addAttribute (placed : Placed entities attributes) {a : Attribute}
    (last : a.index = attributes.length) (bound : a.entity < entities.length) :
    Placed (entities.modify a.entity fun e =>
      { e with attributeIds := e.attributeIds ++ [a.index] }) (attributes ++ [a]) := by
  constructor
  · apply placed.entityIndex.congr
    apply map_modify_of_eq
    intro e
    rfl
  · exact placed.attributeIndex.concat last
  · intro e mem
    obtain ⟨i, found⟩ := List.mem_iff_getElem?.mp mem
    rw [List.getElem?_modify, Option.map_eq_map, Option.map_eq_some_iff] at found
    obtain ⟨old, oldFound, rfl⟩ := found
    have oldIndex := placed.entityIndex i old oldFound
    have oldListed := placed.listed old (List.mem_of_getElem? oldFound)
    by_cases owner : a.entity = i
    · subst owner
      simp [oldListed, oldIndex]
    · have other : (a.entity == old.index) = false := by
        rw [oldIndex]
        exact beq_false_of_ne owner
      simp [owner, oldListed, other]
  · intro b mem
    rw [List.length_modify]
    rcases List.mem_append.mp mem with old | new
    · exact placed.ownerBound b old
    · obtain rfl := List.mem_singleton.mp new
      exact bound

/-- The attributes that an entity lists are those that it owns, in order. -/
theorem Placed.filterMap_attributeIds (placed : Placed entities attributes) {e : Entity}
    (mem : e ∈ entities) :
    e.attributeIds.filterMap (attributes[·]?) = attributes.filter (·.entity == e.index) := by
  rw [placed.listed e mem, List.filterMap_map]
  have look : ∀ a ∈ attributes.filter (·.entity == e.index),
      ((attributes[·]?) ∘ Attribute.index) a = some a := by
    intro a aMem
    exact placed.attributeIndex.getElem? (List.mem_of_mem_filter aMem)
  rw [List.filterMap_congr look, List.filterMap_some]

end Placed

/-! ## Changes that keep elements apart -/

section Apart

variable {names : List String} {attributes : List Attribute} {relationships : List Relationship}

theorem Apart.addName (apart : Apart names attributes relationships) {name : String}
    (fresh : Name.key name ∉ names.map Name.key) :
    Apart (names ++ [name]) attributes relationships := by
  refine { apart with keys := ?_, ends := ?_ }
  · rw [List.map_append, List.map_singleton]
    exact List.nodup_append.mpr ⟨apart.keys, List.nodup_singleton _, by
      intro k old l new same
      rw [List.mem_singleton.mp new] at same
      exact fresh (same ▸ old)⟩
  · intro r mem
    have := apart.ends r mem
    rw [List.length_append]
    omega

theorem Apart.addAttribute (apart : Apart names attributes relationships) {a : Attribute}
    (keyFree : ∀ b ∈ attributes, b.entity = a.entity → Name.key b.name ≠ Name.key a.name)
    (identifierFree : a.identifying = true →
      ∀ b ∈ attributes, b.entity = a.entity → b.identifying = false)
    (type : a.type = .reference ↔ a.references.isSome = true)
    (plain : a.references.isSome = true → a.identifying = false) :
    Apart names (attributes ++ [a]) relationships := by
  have concat {p : Attribute → Prop} (old : ∀ b ∈ attributes, p b) (new : p a) :
      ∀ b ∈ attributes ++ [a], p b := by
    intro b mem
    rcases List.mem_append.mp mem with bMem | bMem
    · exact old b bMem
    · exact List.mem_singleton.mp bMem ▸ new
  refine { apart with
    attributeKeys := concat (fun b bMem => concat (apart.attributeKeys b bMem) ?_) (concat ?_ ?_)
    identifiers := concat (fun b bMem => concat (apart.identifiers b bMem) ?_) (concat ?_ ?_)
    referenceType := concat apart.referenceType type
    referencePlain := concat apart.referencePlain plain }
  · intro owner same
    exact absurd same (keyFree b bMem owner)
  · intro b bMem owner same
    exact absurd same.symm (keyFree b bMem owner.symm)
  · intros
    rfl
  · intro owner bIdentifying aIdentifying
    rw [identifierFree aIdentifying b bMem owner] at bIdentifying
    contradiction
  · intro b bMem owner aIdentifying bIdentifying
    rw [identifierFree aIdentifying b bMem owner.symm] at bIdentifying
    contradiction
  · intros
    rfl

/-- An attribute may be replaced by a variant of the same place, owner, name and target. -/
theorem Apart.setAttribute (apart : Apart names attributes relationships) {old new : Attribute}
    (mem : old ∈ attributes) (index : new.index = old.index) (owner : new.entity = old.entity)
    (name : new.name = old.name)
    (identifierFree : new.identifying = true →
      ∀ b ∈ attributes, b.entity = old.entity → b.identifying = true → b.index = old.index)
    (type : new.type = .reference ↔ new.references.isSome = true)
    (plain : new.references.isSome = true → new.identifying = false) (i : Nat) :
    Apart names (attributes.set i new) relationships := by
  have replaced {p : Attribute → Prop} (kept : ∀ b ∈ attributes, p b) (fresh : p new) :
      ∀ b ∈ attributes.set i new, p b := by
    intro b bMem
    rcases List.mem_or_eq_of_mem_set bMem with oldMem | rfl
    · exact kept b oldMem
    · exact fresh
  refine { apart with
    attributeKeys :=
      replaced (fun b bMem => replaced (apart.attributeKeys b bMem) ?_) (replaced ?_ ?_)
    identifiers :=
      replaced (fun b bMem => replaced (apart.identifiers b bMem) ?_) (replaced ?_ ?_)
    referenceType := replaced apart.referenceType type
    referencePlain := replaced apart.referencePlain plain }
  · rw [index, owner, name]
    exact apart.attributeKeys b bMem old mem
  · rw [index, owner, name]
    exact apart.attributeKeys old mem
  · intros
    rfl
  · intro sameOwner bIdentifying newIdentifying
    rw [index]
    exact identifierFree newIdentifying b bMem (sameOwner.trans owner) bIdentifying
  · intro b bMem sameOwner newIdentifying bIdentifying
    rw [index]
    exact (identifierFree newIdentifying b bMem (sameOwner.symm.trans owner) bIdentifying).symm
  · intros
    rfl

theorem Apart.addRelationship (apart : Apart names attributes relationships) {r : Relationship}
    (last : r.index = relationships.length) (source : r.source < names.length)
    (target : r.target < names.length)
    (fresh : ∀ s ∈ relationships,
      s.source = r.source → s.target = r.target → s.derivable ≠ r.derivable) :
    Apart names attributes (relationships ++ [r]) := by
  refine { apart with
    relationshipIndex := apart.relationshipIndex.concat last
    ends := ?_
    links := ?_ }
  · intro s mem
    rcases List.mem_append.mp mem with old | new
    · exact apart.ends s old
    · exact List.mem_singleton.mp new ▸ ⟨source, target⟩
  · intro s sMem t tMem sameSource sameTarget sameKind
    rcases List.mem_append.mp sMem with sOld | sNew <;>
      rcases List.mem_append.mp tMem with tOld | tNew
    · exact apart.links s sOld t tOld sameSource sameTarget sameKind
    · obtain rfl := List.mem_singleton.mp tNew
      exact absurd sameKind (fresh s sOld sameSource sameTarget)
    · obtain rfl := List.mem_singleton.mp sNew
      exact absurd sameKind.symm (fresh t tOld sameSource.symm sameTarget.symm)
    · rw [List.mem_singleton.mp sNew, List.mem_singleton.mp tNew]

end Apart

/-! ## Changes that keep references and relationships together -/

section Told

variable {names : List String} {attributes : List Attribute} {relationships : List Relationship}

theorem Told.addName (told : Told names attributes relationships)
    (ends : ∀ r ∈ relationships, r.target < names.length) (name : String) :
    Told (names ++ [name]) attributes relationships := by
  constructor
  · intro a mem target references
    obtain ⟨bound, named, link⟩ := told.reference a mem target references
    refine ⟨?_, ?_, link⟩
    · rw [List.length_append]
      omega
    · rw [named, nameAt_concat_of_lt bound]
  · intro r mem derivable
    rw [nameAt_concat_of_lt (ends r mem)]
    exact told.derivable r mem derivable

/-- Owners, names and targets are all that matters of attributes. -/
theorem Told.congr (told : Told names attributes relationships) {attributes' : List Attribute}
    (same : attributes'.map (fun a => (a.entity, a.name, a.references)) =
      attributes.map fun a => (a.entity, a.name, a.references)) :
    Told names attributes' relationships := by
  have pull {l l' : List Attribute}
      (sameMap : l.map (fun a => (a.entity, a.name, a.references)) =
        l'.map fun a => (a.entity, a.name, a.references)) {a : Attribute} (mem : a ∈ l) :
      ∃ b ∈ l', b.entity = a.entity ∧ b.name = a.name ∧ b.references = a.references := by
    have shown := List.mem_map_of_mem (f := fun a => (a.entity, a.name, a.references)) mem
    rw [sameMap] at shown
    obtain ⟨b, bMem, bEq⟩ := List.mem_map.mp shown
    simp only [Prod.mk.injEq] at bEq
    exact ⟨b, bMem, bEq⟩
  constructor
  · intro a mem target references
    obtain ⟨b, bMem, owner, name, sameTarget⟩ := pull same mem
    rw [← owner, ← name]
    exact told.reference b bMem target (sameTarget.trans references)
  · intro r mem derivable
    obtain ⟨a, aMem, owner, key⟩ := told.derivable r mem derivable
    obtain ⟨b, bMem, bOwner, bName, -⟩ := pull same.symm aMem
    exact ⟨b, bMem, bOwner.trans owner, bName ▸ key⟩

theorem Told.addAttribute (told : Told names attributes relationships) {a : Attribute}
    (plain : a.references = none) : Told names (attributes ++ [a]) relationships := by
  constructor
  · intro b mem target references
    rcases List.mem_append.mp mem with old | new
    · exact told.reference b old target references
    · rw [List.mem_singleton.mp new, plain] at references
      contradiction
  · intro r mem derivable
    obtain ⟨b, bMem, found⟩ := told.derivable r mem derivable
    exact ⟨b, List.mem_append_left _ bMem, found⟩

/-- A relationship may be added when it is not derivable or the name of its target is taken. -/
theorem Told.addRelationship (told : Told names attributes relationships) {r : Relationship}
    (named : r.derivable = true → ∃ a ∈ attributes,
      a.entity = r.source ∧ Name.key a.name = Name.key (nameAt names r.target)) :
    Told names attributes (relationships ++ [r]) := by
  constructor
  · intro a mem target references
    obtain ⟨bound, name, s, sMem, link⟩ := told.reference a mem target references
    exact ⟨bound, name, s, List.mem_append_left _ sMem, link⟩
  · intro s mem derivable
    rcases List.mem_append.mp mem with old | new
    · exact told.derivable s old derivable
    · obtain rfl := List.mem_singleton.mp new
      exact named derivable

/-- A derivable relationship may be added together with the reference attribute for it. -/
theorem Told.addReference (told : Told names attributes relationships) {r : Relationship}
    {a : Attribute} (derivable : r.derivable = true) (bound : r.target < names.length)
    (owner : a.entity = r.source) (name : a.name = nameAt names r.target)
    (references : a.references = some r.target) :
    Told names (attributes ++ [a]) (relationships ++ [r]) := by
  constructor
  · intro b mem target bReferences
    rcases List.mem_append.mp mem with old | new
    · obtain ⟨tBound, tName, s, sMem, link⟩ := told.reference b old target bReferences
      exact ⟨tBound, tName, s, List.mem_append_left _ sMem, link⟩
    · obtain rfl := List.mem_singleton.mp new
      obtain rfl := Option.some.inj (references.symm.trans bReferences)
      exact ⟨bound, name, r, List.mem_append_right _ (List.mem_singleton.mpr rfl), derivable,
        owner.symm, rfl⟩
  · intro s mem sDerivable
    rcases List.mem_append.mp mem with old | new
    · obtain ⟨b, bMem, found⟩ := told.derivable s old sDerivable
      exact ⟨b, List.mem_append_left _ bMem, found⟩
    · obtain rfl := List.mem_singleton.mp new
      exact ⟨a, List.mem_append_right _ (List.mem_singleton.mpr rfl), owner, by rw [name]⟩

end Told

end FactModel.Arena
