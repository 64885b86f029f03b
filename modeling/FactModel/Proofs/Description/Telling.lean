import FactModel.Proofs.Description.Legible
import FactModel.Proofs.Graph.Rechecking

/-!
# What the items of a description tell

The items of a description tell everything that a graph holds, each thing once: an attribute is told
by an item of its own or, when it is a reference, along with its relationship.  The attributes of an
entity are told in their order, and before anything else is told of the entity.
-/

namespace FactModel

open Arena

/-! ## Lists grouped by owner -/

namespace Arena

section Grouped

variable {α β : Type} {index : β → Nat} {l : List β} {owner : α → Nat} {f : β → List α}

/-- Of a list grouped by owner, what an owner has is its group. -/
theorem Indexed.filter_flatMap (indexed : Indexed index l)
    (owned : ∀ b ∈ l, ∀ a ∈ f b, owner a = index b) {b : β} (mem : b ∈ l) :
    (l.flatMap f).filter (owner · == index b) = f b := by
  obtain ⟨before, after, rfl⟩ := List.append_of_mem mem
  have apart := List.nodup_middle.mp indexed.nodup
  have others (rest : List β) (sub : rest ⊆ before ++ after) :
      (rest.flatMap f).filter (owner · == index b) = [] := by
    rw [List.filter_eq_nil_iff]
    intro a aMem same
    obtain ⟨c, cMem, aOf⟩ := List.mem_flatMap.mp aMem
    have cThere : c ∈ before ++ b :: after := by
      rcases List.mem_append.mp (sub cMem) with early | late
      · exact List.mem_append_left _ early
      · exact List.mem_append_right _ (List.mem_cons_of_mem _ late)
    have sameIndex : index c = index b := (owned c cThere a aOf).symm.trans (eq_of_beq same)
    exact (List.nodup_cons.mp apart).1 (indexed.eq_of_index cThere mem sameIndex ▸ sub cMem)
  have own : (f b).filter (owner · == index b) = f b := by
    rw [List.filter_eq_self]
    exact fun a aMem => beq_iff_eq.mpr (owned b mem a aMem)
  rw [List.flatMap_append, List.flatMap_cons, List.filter_append, List.filter_append, own,
    others before (List.subset_append_left ..), others after (List.subset_append_right ..)]
  simp

/-- A list is the same but for its order when it is grouped by owner. -/
theorem Indexed.flatMap_perm [DecidableEq α] (indexed : Indexed index l) {as : List α}
    (bound : ∀ a ∈ as, owner a < l.length) :
    (l.flatMap fun b => as.filter (owner · == index b)).Perm as := by
  suffices same : ∀ i, (l.flatMap fun b => as.filter (owner · == index b)).filter (owner · == i) =
      as.filter (owner · == i) from Draft.perm_of_filter_eq same
  intro i
  have owned : ∀ b ∈ l, ∀ a ∈ as.filter (owner · == index b), owner a = index b :=
    fun b _ a aMem => eq_of_beq (List.mem_filter.mp aMem).2
  by_cases inside : i < l.length
  · have place := indexed i l[i] (List.getElem?_eq_getElem inside)
    rw [← place, indexed.filter_flatMap owned (List.getElem_mem inside)]
  · have none : as.filter (owner · == i) = [] := by
      rw [List.filter_eq_nil_iff]
      intro a aMem same
      exact inside (eq_of_beq same ▸ bound a aMem)
    rw [none, List.filter_eq_nil_iff]
    intro a aMem same
    obtain ⟨b, -, aOf⟩ := List.mem_flatMap.mp aMem
    exact inside (eq_of_beq same ▸ bound a (List.mem_of_mem_filter aOf))

end Grouped

end Arena

namespace Description

namespace Item

/-- The attribute that comes with an item: the one that it tells, or the reference for the
relationship that it tells. -/
def attribute? (g : Graph) : Item → Option Attribute
  | attr a => some a
  | relationship r =>
    if r.derivable then (g.attributesOf r.source).find? (·.references == some r.target) else none
  | _ => none

/-- The relationship that an item tells. -/
def relationship? : Item → Option Relationship
  | relationship r => some r
  | _ => none

/-- The constraint that an item tells. -/
def constraint? : Item → Option Constraint
  | constraint c => some c
  | _ => none

/-- The subtype rule that an item tells. -/
def subtype? : Item → Option SubtypeRule
  | subtype rule => some rule
  | _ => none

end Item

/-! ## Items of one kind -/

theorem filterMap_map_eq_nil {α β : Type} {f : Item → Option β} {make : α → Item} (l : List α)
    (none : ∀ x, f (make x) = none) : (l.map make).filterMap f = [] := by
  rw [List.filterMap_map]
  exact List.filterMap_eq_nil_iff.mpr fun x _ => none x

/-- What is neither an attribute nor a relationship is found among the constraints and subtypes. -/
theorem filterMap_items {g : Graph} {α : Type} (f : Item → Option α) (attr : ∀ a, f (.attr a) = none)
    (relationship : ∀ r, f (.relationship r) = none) (e : Entity) : (items g e).filterMap f =
      ((g.constraintsOf e.index).map Item.constraint).filterMap f ++
        ((g.subtypeRulesOf e.index).map Item.subtype).filterMap f := by
  have first : ((g.attributesOf e.index).map (attributeItem g)).filterMap f = [] := by
    refine filterMap_map_eq_nil _ fun a => ?_
    rw [attributeItem]
    split
    · exact relationship _
    · exact attr a
  rw [items, List.filterMap_append, List.filterMap_append, List.filterMap_append, first,
    filterMap_map_eq_nil _ relationship, List.nil_append, List.nil_append]

section Told

variable {doc : Document} {g : Graph} (compiled : Compiled doc g)

/-! ## Attributes -/

include compiled

/-- The reference attribute for a relationship that an entity has. -/
theorem referred?_eq_some {a : Attribute} (mem : a ∈ g.attributes) {r : Relationship}
    (rMem : r ∈ g.relationships) (derivable : r.derivable = true) (source : r.source = a.entity)
    (references : a.references = some r.target) : referred? g a = some r := by
  have there : (referred? g a).isSome = true := by
    rw [referred?, List.find?_isSome]
    refine ⟨r, List.mem_filter.mpr ⟨rMem, beq_iff_eq.mpr source⟩, ?_⟩
    simp [references, derivable]
  obtain ⟨s, found⟩ := Option.isSome_iff_exists.mp there
  obtain ⟨sMem, sSource, sTarget, sDerivable⟩ := of_referred?_eq_some found
  obtain ⟨only, -, unique⟩ := compiled.reference_belongs mem references
  rw [found, unique s ⟨sMem, sDerivable, sSource, Option.some.inj (sTarget.trans references)⟩,
    unique r ⟨rMem, derivable, source, rfl⟩]

/-- An attribute that no relationship tells refers to nothing. -/
theorem references_eq_none {a : Attribute} (mem : a ∈ g.attributes)
    (untold : referred? g a = none) : a.references = none := by
  cases references : a.references with
  | none => rfl
  | some target =>
    obtain ⟨r, ⟨rMem, derivable, source, isTarget⟩, -⟩ := compiled.reference_belongs mem references
    rw [referred?_eq_some compiled mem rMem derivable source (isTarget ▸ references)] at untold
    contradiction

/-- The reference that comes with a relationship is one of its source, and tells it. -/
theorem of_attribute?_relationship {r : Relationship} (mem : r ∈ g.relationships) {a : Attribute}
    (comes : (Item.relationship r).attribute? g = some a) :
    a ∈ g.attributes ∧ a.entity = r.source ∧ a.references = some r.target ∧
      r.derivable = true ∧ referred? g a = some r := by
  rw [Item.attribute?] at comes
  split at comes
  · next derivable =>
    obtain ⟨aMem, owner⟩ := compiled.mem_attributesOf.mp (List.mem_of_find?_eq_some comes)
    have references : a.references = some r.target := eq_of_beq (List.find?_some comes :)
    exact ⟨aMem, owner, references, derivable,
      referred?_eq_some compiled aMem mem derivable owner.symm references⟩
  · contradiction

/-- The item that tells an attribute comes with it. -/
theorem attribute?_attributeItem {a : Attribute} (mem : a ∈ g.attributes) :
    (attributeItem g a).attribute? g = some a := by
  rw [attributeItem]
  cases found : referred? g a with
  | none => rfl
  | some r =>
    obtain ⟨rMem, source, references, derivable⟩ := of_referred?_eq_some found
    have there : ((Item.relationship r).attribute? g).isSome = true := by
      rw [Item.attribute?, if_pos derivable, List.find?_isSome]
      exact ⟨a, compiled.mem_attributesOf.mpr ⟨mem, source.symm⟩, by simp [references]⟩
    obtain ⟨b, comes⟩ := Option.isSome_iff_exists.mp there
    obtain ⟨bMem, owner, bReferences, -⟩ := of_attribute?_relationship compiled rMem comes
    have named : b.name = a.name := by
      rw [compiled.name_of_references bMem bReferences,
        compiled.name_of_references mem references.symm]
    rw [compiled.eq_of_key bMem mem (owner.trans source) (congrArg Name.key named)] at comes
    exact comes

/-- No attribute comes with what is told after the attributes. -/
theorem attribute?_untold {e : Entity} {r : Relationship} (mem : r ∈ untold g e) :
    (Item.relationship r).attribute? g = none := by
  obtain ⟨isOutgoing, notTold⟩ := List.mem_filter.mp mem
  obtain ⟨rMem, source⟩ := List.mem_filter.mp isOutgoing
  rw [Option.eq_none_iff_forall_ne_some]
  intro a comes
  obtain ⟨aMem, owner, -, -, found⟩ := of_attribute?_relationship compiled rMem comes
  have isTold : r.index ∈ told g e := List.mem_filterMap.mpr
    ⟨a, compiled.mem_attributesOf.mpr ⟨aMem, owner.trans (eq_of_beq source)⟩, by rw [found]; rfl⟩
  simp [isTold] at notTold

/-- The attributes of an entity are told first, and in their order. -/
theorem exists_items_eq (e : Entity) : ∃ rest, items g e =
    (g.attributesOf e.index).map (attributeItem g) ++ rest ∧
      ∀ item ∈ rest, item.attribute? g = none := by
  refine ⟨(untold g e).map .relationship ++ (g.constraintsOf e.index).map .constraint ++
    (g.subtypeRulesOf e.index).map .subtype, by simp only [items, List.append_assoc], ?_⟩
  intro item mem
  rw [List.mem_append, List.mem_append, List.mem_map, List.mem_map, List.mem_map] at mem
  rcases mem with (⟨r, rMem, rfl⟩ | ⟨c, -, rfl⟩) | ⟨rule, -, rfl⟩
  · exact attribute?_untold compiled rMem
  · rfl
  · rfl

theorem filterMap_attribute?_items (e : Entity) :
    (items g e).filterMap (Item.attribute? g) = g.attributesOf e.index := by
  obtain ⟨rest, split, silent⟩ := exists_items_eq compiled e
  have first : ((g.attributesOf e.index).map (attributeItem g)).filterMap (Item.attribute? g) =
      g.attributesOf e.index := by
    rw [List.filterMap_map]
    refine (List.filterMap_congr fun a mem => ?_).trans List.filterMap_some
    exact attribute?_attributeItem compiled (compiled.mem_attributesOf.mp mem).1
  rw [split, List.filterMap_append, first, List.filterMap_eq_nil_iff.mpr silent, List.append_nil]

/-- All attributes are told, grouped by entity. -/
theorem filterMap_attribute?_told : g.told.filterMap (Item.attribute? g) =
    g.entities.flatMap fun e => g.attributesOf e.index := by
  rw [Graph.told, List.filterMap_flatMap]
  simp only [filterMap_attribute?_items compiled]

theorem attributes_told_perm : (g.told.filterMap (Item.attribute? g)).Perm g.attributes := by
  rw [filterMap_attribute?_told compiled]
  simp only [compiled.attributesOf_eq]
  exact compiled.wellFormed.placed.entityIndex.flatMap_perm compiled.wellFormed.placed.ownerBound

/-- No attribute of an entity is told after something else was told of the entity. -/
theorem told_pairwise : g.told.Pairwise fun x y =>
    x.attribute? g = none → ∀ b ∈ y.attribute? g, b.entity ≠ x.entity := by
  have indexed : Indexed Entity.index g.entities := compiled.wellFormed.placed.entityIndex
  have owner {e : Entity} (eMem : e ∈ g.entities) {item : Item} (mem : item ∈ items g e)
      {b : Attribute} (comes : item.attribute? g = some b) : b.entity = e.index := by
    have listed : b ∈ g.attributesOf e.index := by
      rw [← filterMap_attribute?_items compiled]
      exact List.mem_filterMap.mpr ⟨item, mem, comes⟩
    exact (compiled.mem_attributesOf.mp listed).2
  rw [Graph.told, List.pairwise_flatMap]
  constructor
  · intro e _
    obtain ⟨rest, split, silent⟩ := exists_items_eq compiled e
    rw [split, List.pairwise_append]
    have speaks : ∀ item ∈ (g.attributesOf e.index).map (attributeItem g),
        item.attribute? g ≠ none := by
      intro item mem
      obtain ⟨a, aMem, rfl⟩ := List.mem_map.mp mem
      rw [attribute?_attributeItem compiled (compiled.mem_attributesOf.mp aMem).1]
      simp
    refine ⟨?_, ?_, ?_⟩
    · exact List.pairwise_of_forall_mem_list fun x xMem _ _ none => absurd none (speaks x xMem)
    · refine List.pairwise_of_forall_mem_list fun _ _ y yMem _ b comes => ?_
      rw [silent y yMem] at comes
      contradiction
    · exact fun x xMem _ _ none => absurd none (speaks x xMem)
  · refine indexed.pairwise.imp_of_mem ?_
    intro d e dMem eMem before x xMem y yMem _ b comes
    rw [owner eMem yMem comes, ((mem_items_iff (.of_compiled compiled)).mp xMem).2.1]
    omega

/-! ## Relationships -/

theorem filterMap_relationship?_items_perm (e : Entity) :
    ((items g e).filterMap Item.relationship?).Perm (g.outgoing e.index) := by
  have relationships : (items g e).filterMap Item.relationship? =
      (g.attributesOf e.index).filterMap (referred? g) ++ untold g e := by
    have ofAttributes : ((g.attributesOf e.index).map (attributeItem g)).filterMap
        Item.relationship? = (g.attributesOf e.index).filterMap (referred? g) := by
      rw [List.filterMap_map]
      refine List.filterMap_congr fun a _ => ?_
      rw [Function.comp_apply, attributeItem]
      cases referred? g a <;> rfl
    have ofUntold : ((untold g e).map Item.relationship).filterMap Item.relationship? =
        untold g e := by
      rw [List.filterMap_map]
      exact List.filterMap_some
    rw [items, List.filterMap_append, List.filterMap_append, List.filterMap_append, ofAttributes,
      ofUntold, filterMap_map_eq_nil _ fun _ => rfl, filterMap_map_eq_nil _ fun _ => rfl,
      List.append_nil, List.append_nil]
  have outgoing : (g.outgoing e.index).Nodup :=
    compiled.wellFormed.apart.relationshipIndex.nodup.filter _
  have attributes : (g.attributesOf e.index).Nodup := by
    rw [compiled.attributesOf_eq]
    exact compiled.wellFormed.placed.attributeIndex.nodup.filter _
  refine (List.perm_ext_iff_of_nodup ?_ outgoing).mpr fun r => ?_
  · rw [relationships, List.nodup_append]
    refine ⟨?_, outgoing.filter _, ?_⟩
    · rw [List.Nodup, List.pairwise_filterMap]
      refine attributes.imp_of_mem ?_
      rintro a b aMem bMem differs r aFound _ bFound rfl
      obtain ⟨aMem, aOwner⟩ := compiled.mem_attributesOf.mp aMem
      obtain ⟨bMem, bOwner⟩ := compiled.mem_attributesOf.mp bMem
      have aTarget := (of_referred?_eq_some aFound).2.2.1
      have bTarget := (of_referred?_eq_some bFound).2.2.1
      have named : a.name = b.name := by
        rw [compiled.name_of_references aMem aTarget.symm,
          compiled.name_of_references bMem bTarget.symm]
      exact differs (compiled.eq_of_key aMem bMem (aOwner.trans bOwner.symm)
        (congrArg Name.key named))
    · rintro r rTold _ rUntold rfl
      obtain ⟨a, aMem, found⟩ := List.mem_filterMap.mp rTold
      have isTold : r.index ∈ told g e :=
        List.mem_filterMap.mpr ⟨a, aMem, by rw [found]; rfl⟩
      simp [untold, isTold] at rUntold
  · rw [List.mem_filterMap]
    constructor
    · rintro ⟨item, mem, tells⟩
      cases item with
      | relationship s =>
        obtain rfl := Option.some.inj tells
        obtain ⟨within, source, -⟩ := (mem_items_iff (.of_compiled compiled)).mp mem
        exact List.mem_filter.mpr ⟨within, beq_iff_eq.mpr source⟩
      | _ => contradiction
    · intro mem
      obtain ⟨rMem, source⟩ := List.mem_filter.mp mem
      exact ⟨.relationship r, (mem_items_iff (.of_compiled compiled)).mpr
        ⟨rMem, eq_of_beq source, by simp⟩, rfl⟩

/-- Each relationship is told once. -/
theorem relationships_told_perm : (g.told.filterMap Item.relationship?).Perm g.relationships := by
  rw [Graph.told, List.filterMap_flatMap]
  refine (List.Perm.flatMap_left _ fun e _ => filterMap_relationship?_items_perm compiled e).trans ?_
  exact compiled.wellFormed.placed.entityIndex.flatMap_perm
    fun r mem => (compiled.closed.ends r mem).1

/-- Derivable relationships are told in the order in which they were stated, where a legible graph
says so. -/
theorem derivable_told (legible : g.Legible) {e : Entity} (mem : e ∈ g.entities) :
    (g.told.filterMap Item.relationship?).filter (fun r => r.derivable && r.source == e.index) =
      g.relationships.filter fun r => r.derivable && r.source == e.index := by
  have indexed : Indexed Entity.index g.entities := compiled.wellFormed.placed.entityIndex
  have owned : ∀ d ∈ g.entities, ∀ r ∈ (items g d).filterMap Item.relationship?,
      r.source = d.index := by
    intro d _ r rMem
    have isOutgoing := (filterMap_relationship?_items_perm compiled d).mem_iff.mp rMem
    exact eq_of_beq (List.mem_filter.mp isOutgoing).2
  have derivable (l : List Item) : (l.filterMap Item.relationship?).filter (·.derivable) =
      l.filterMap Item.derivable? := by
    rw [List.filter_filterMap]
    refine List.filterMap_congr fun item _ => ?_
    cases item <;> rfl
  rw [← List.filter_filter, Graph.told, List.filterMap_flatMap,
    indexed.filter_flatMap owned mem, derivable, legible.settled e mem, Graph.outgoing, List.filter_filter]

/-! ## Constraints and subtypes -/

theorem constraints_told_perm : (g.told.filterMap Item.constraint?).Perm g.constraints := by
  have ofItems (e : Entity) : (items g e).filterMap Item.constraint? = g.constraintsOf e.index := by
    rw [filterMap_items _ (fun _ => rfl) fun _ => rfl,
      filterMap_map_eq_nil (g.subtypeRulesOf e.index) fun _ => rfl, List.append_nil,
      List.filterMap_map]
    exact List.filterMap_some
  rw [Graph.told, List.filterMap_flatMap]
  simp only [ofItems]
  exact compiled.wellFormed.placed.entityIndex.flatMap_perm
    fun c mem => (compiled.constraints c mem).1

theorem subtypes_told_perm : (g.told.filterMap Item.subtype?).Perm g.subtypeRules := by
  have ofItems (e : Entity) : (items g e).filterMap Item.subtype? = g.subtypeRulesOf e.index := by
    rw [filterMap_items _ (fun _ => rfl) fun _ => rfl, filterMap_map_eq_nil _ fun _ => rfl,
      List.nil_append, List.filterMap_map]
    exact List.filterMap_some
  rw [Graph.told, List.filterMap_flatMap]
  simp only [ofItems]
  exact compiled.wellFormed.placed.entityIndex.flatMap_perm
    fun rule mem => (compiled.wellFormed.subtypes rule mem).1

/-! ## One after the other -/

omit compiled in
/-- What is told once has not been told before. -/
theorem ne_of_told {α : Type} {f : Item → Option α} {l : List α} {before rest : List Item}
    {item : Item} (told : g.told = before ++ item :: rest)
    (once : (g.told.filterMap f).Perm l) (nodup : l.Nodup) {a : α} (tells : f item = some a) :
    a ∈ l ∧ ∀ b ∈ before.filterMap f, b ∈ l ∧ b ≠ a := by
  have whole := once.nodup_iff.mpr nodup
  have listed (b : α) : b ∈ before.filterMap f ++ a :: rest.filterMap f → b ∈ l := by
    intro mem
    refine once.mem_iff.mp ?_
    rwa [told, List.filterMap_append, List.filterMap_cons_some tells]
  rw [told, List.filterMap_append, List.filterMap_cons_some tells] at whole
  refine ⟨listed a (by simp), fun b mem => ⟨listed b (List.mem_append_left _ mem), ?_⟩⟩
  exact (List.nodup_append.mp whole).2.2 b mem a List.mem_cons_self

end Told

end Description

end FactModel
