import FactModel.Proofs.Description.Reading
import FactModel.Proofs.Description.Telling
import FactModel.Proofs.Document.Reading
import FactModel.Proofs.Graph.Backing

/-!
# Telling a graph again

When the facts of a legible description are attached one after the other, the draft holds at every
moment just what has been told so far: the declared entities and those mentioned since, and the
attributes, relationships, rules and subtypes of the items told.  No fact meets a name that is taken,
except where a plain attribute stands in for a reference that the graph does not have either.
-/

namespace FactModel

open Arena

/-! ## What is told -/

/-- A graph that says nothing that was not stated. -/
structure Graph.Stated (g : Graph) : Prop where
  stubs : ∀ e ∈ g.entities, e.declared = false → e.description = ""
  described : ∀ e ∈ g.entities, Describable e.description
  guessed : ∀ a ∈ g.attributes, a.references = none → a.typeDeclared = false →
    a.type = .ofAttributeName a.name
  bare : ∀ a ∈ g.attributes, a.references.isSome = true → a.sample = none

theorem stated_of_compile {text : String} {g : Graph} (compiles : compile text = .ok g) :
    g.Stated := by
  obtain ⟨doc, read, built⟩ := parse_of_compile compiles
  obtain ⟨d, e, constraints, drafted, -, checks, rfl⟩ := Graph.ofDocument_eq_ok built
  obtain ⟨-, rulesChecked, subtypesChecked⟩ := Draft.checked_of_checkRules read drafted checks
  have stated := Draft.stated_of_ofDocument read drafted
  have checked := rulesChecked.trans subtypesChecked
  have exists_stated (a : Attribute) (mem : a ∈ e.checkSubtypes.2.attributes) :
      ∃ b ∈ d.attributes, a = { b with required := a.required } := by
    have shown := List.mem_map_of_mem (f := Attribute.unruled) mem
    rw [checked.attributes] at shown
    obtain ⟨b, bMem, same⟩ := List.mem_map.mp shown
    exact ⟨b, bMem, (congrArg (fun c : Attribute => { c with required := a.required }) same.symm :)⟩
  refine ⟨?_, ?_, ?_, ?_⟩
  · rw [checked.entities]
    exact stated.stubs
  · rw [checked.entities]
    exact stated.described
  · intro a mem
    obtain ⟨b, bMem, same⟩ := exists_stated a mem
    rw [same]
    exact (stated.attributes b bMem).guessed
  · intro a mem
    obtain ⟨b, bMem, same⟩ := exists_stated a mem
    rw [same]
    exact (stated.attributes b bMem).bare

/-- An attribute regardless of its place and of how its type came about. -/
def Attribute.told (a : Attribute) : Attribute :=
  { a with index := 0, typeDeclared := false, required := false, line := 0 }

/-- A subtype rule wherever it was stated. -/
def SubtypeRule.told (rule : SubtypeRule) : SubtypeRule :=
  { rule with line := 0 }

namespace Description

/-- A draft that holds what some items tell, and the first entities of a graph. -/
structure Tracks (g : Graph) (known : Nat) (before : List Item) (d : Draft) : Prop where
  wellFormed : d.WellFormed
  declared : g.declaredNames.length ≤ known
  entities : d.entities.map Entity.outline = (g.entities.take known).map Entity.outline
  attributes : d.attributes.map Attribute.told =
    (before.filterMap (Item.attribute? g)).map Attribute.told
  relationships : d.relationships.map Relationship.told =
    (before.filterMap Item.relationship?).map Relationship.told
  rules : d.rules.map PendingRule.told = (before.filterMap Item.constraint?).map Constraint.pending
  subtypes : d.subtypes.map SubtypeRule.told =
    (before.filterMap Item.subtype?).map SubtypeRule.told

/-! ## Counting entities -/

theorem met_append (known : Nat) (l l' : List Nat) : met known (l ++ l') = met (met known l) l' :=
  List.foldl_append

theorem inOrder_append {known : Nat} {l l' : List Nat} :
    InOrder known (l ++ l') ↔ InOrder known l ∧ InOrder (met known l) l' := by
  induction l generalizing known with
  | nil => simp [InOrder, met]
  | cons i rest ih => simp [InOrder, met, ih, and_assoc]

/-- A subtype rule mentions its entities first. -/
theorem mentions_subtype (rule : SubtypeRule) : ∃ more,
    (Item.subtype rule).mentions = rule.subtype :: rule.base :: more := by
  obtain ⟨subtype, base, predicate, line⟩ := rule
  rcases predicate with _ | ⟨target, count⟩ | ⟨name⟩
  · exact ⟨[], rfl⟩
  · exact ⟨[target], rfl⟩
  · exact ⟨[], rfl⟩

namespace Tracks

variable {g : Graph} {known : Nat} {before : List Item} {d : Draft}
  (tracks : Tracks g known before d)

include tracks

theorem length_entities : d.entities.length = min known g.entities.length := by
  have same := congrArg List.length tracks.entities
  simpa using same

/-- An entity that is there is the one that the graph has at that position. -/
theorem getElem?_names {i : Nat} (bound : i < d.entities.length) :
    d.names[i]? = g.draft.names[i]? := by
  have names : d.names = (g.draft.names).take known := by
    have same := congrArg (List.map (·.1)) tracks.entities
    rw [List.map_map, List.map_map, List.map_take] at same
    exact same
  have inside := tracks.length_entities
  rw [names, List.getElem?_take_of_lt (by omega)]

theorem entityName {i : Nat} (bound : i < d.entities.length) : d.entityName i = g.entityName i := by
  rw [g.entityName_eq, d.entityName_eq, nameAt, nameAt, tracks.getElem?_names bound]

/-- Another draft with the same entities holds what it was given besides. -/
theorem holding {e : Draft} {item : Item} (wellFormed : e.WellFormed)
    (entities : e.entities.map Entity.outline = d.entities.map Entity.outline)
    (attributes : e.attributes.map Attribute.told =
      d.attributes.map Attribute.told ++ ((item.attribute? g).map Attribute.told).toList)
    (relationships : e.relationships.map Relationship.told =
      d.relationships.map Relationship.told ++ (item.relationship?.map Relationship.told).toList)
    (rules : e.rules.map PendingRule.told =
      d.rules.map PendingRule.told ++ (item.constraint?.map Constraint.pending).toList)
    (subtypes : e.subtypes.map SubtypeRule.told =
      d.subtypes.map SubtypeRule.told ++ (item.subtype?.map SubtypeRule.told).toList) :
    Tracks g known (before ++ [item]) e := by
  have one {α β : Type} (f : Item → Option α) (look : α → β) :
      ((before ++ [item]).filterMap f).map look =
        (before.filterMap f).map look ++ ((f item).map look).toList := by
    cases found : f item <;> simp [found]
  refine ⟨wellFormed, tracks.declared, entities.trans tracks.entities, ?_, ?_, ?_, ?_⟩
  · rw [attributes, one, tracks.attributes]
  · rw [relationships, one, tracks.relationships]
  · rw [rules, one, tracks.rules]
  · rw [subtypes, one, tracks.subtypes]

omit tracks in
/-- What is not declared stands behind the declared entities, and nothing but its name is told. -/
theorem outline_eq {doc : Document} (compiled : Compiled doc g) (stated : g.Stated) {i : Nat}
    {e : Entity} (found : g.entities[i]? = some e) (behind : g.declaredNames.length ≤ i) :
    e.outline = (g.entityName i, "", false) := by
  have name : g.entityName i = e.name := by
    rw [Graph.entityName, found]
    rfl
  have undeclared : e.declared = false := by
    have there := found
    have lengths : g.declaredNames.length = (g.entities.filter (·.declared)).length :=
      List.length_map _
    rw [← declared_append_undeclared compiled, List.getElem?_append_right (by omega)] at there
    simpa using (List.mem_filter.mp (List.mem_of_getElem? there)).2
  rw [Entity.outline, name, undeclared, stated.stubs e (List.mem_of_getElem? found) undeclared]

/-- An entity that is mentioned in its turn is found at its place. -/
theorem resolve {doc : Document} (compiled : Compiled doc g) (stated : g.Stated) {i : Nat}
    (turn : i ≤ known) (bound : i < g.entities.length) (line : Nat) :
    (d.resolve line (g.entityName i)).1 = i ∧
      Tracks g (max known (i + 1)) before (d.resolve line (g.entityName i)).2 := by
  have keys := compiled.wellFormed.apart.keys
  have inside := tracks.length_entities
  have lengths : g.draft.names.length = g.entities.length := by simp [Graph.draft]
  rcases Draft.resolve_cases d line (g.entityName i) with ⟨e, found, resolved⟩ | ⟨missing, resolved⟩
  · obtain ⟨place, key⟩ := Draft.of_entity?_eq_some tracks.wellFormed.placed found
    have eBound : e.index < d.entities.length := (List.getElem?_eq_some_iff.mp place).1
    have named : e.name = nameAt g.draft.names e.index := by
      have there : d.names[e.index]? = some e.name := by
        rw [Draft.names, List.getElem?_map, place]
        rfl
      rw [tracks.getElem?_names eBound] at there
      rw [nameAt, there]
      rfl
    rw [named, g.entityName_eq] at key
    have same : e.index = i := eq_of_key_nameAt keys (by omega) (by omega) key
    rw [resolved]
    refine ⟨same, ?_⟩
    rwa [Nat.max_eq_left (by omega)]
  · have isNew : i = d.entities.length := by
      by_contra other
      have there : d.names[i]? = some (g.entityName i) := by
        rw [tracks.getElem?_names (by omega), g.entityName_eq, nameAt,
          List.getElem?_eq_getElem (by omega)]
        rfl
      exact Draft.key_not_mem_of_entity?_eq_none missing
        (List.mem_map_of_mem (List.mem_of_getElem? there))
    have isKnown : i = known := by omega
    have added := (tracks.wellFormed.resolve line (g.entityName i)).1
    rw [resolved] at added ⊢
    refine ⟨isNew.symm, added, ?_, ?_, tracks.attributes, tracks.relationships, tracks.rules,
      tracks.subtypes⟩
    · exact Nat.le_trans tracks.declared (Nat.le_max_left ..)
    · have found := List.getElem?_eq_getElem bound
      have stub := outline_eq compiled stated found (isKnown ▸ tracks.declared)
      have grown : max known (i + 1) = i + 1 := by omega
      rw [grown, List.take_add_one, found, Option.toList_some, List.map_append, List.map_singleton,
        stub, isKnown, ← tracks.entities, ← isKnown]
      simp [Draft.warn, Draft.addEntity, Entity.outline]

/-! ### Attributes -/

theorem exists_attribute {b : Attribute} (mem : b ∈ d.attributes) :
    ∃ c ∈ before.filterMap (Item.attribute? g), c.told = b.told := by
  have shown := List.mem_map_of_mem (f := Attribute.told) mem
  rw [tracks.attributes] at shown
  exact List.mem_map.mp shown

theorem exists_relationship {s : Relationship} (mem : s ∈ d.relationships) :
    ∃ c ∈ before.filterMap Item.relationship?, c.told = s.told := by
  have shown := List.mem_map_of_mem (f := Relationship.told) mem
  rw [tracks.relationships] at shown
  exact List.mem_map.mp shown

section Items

variable {doc : Document} (compiled : Compiled doc g) {item : Item} {rest : List Item}
  (told : g.told = before ++ item :: rest)

include compiled told

/-- No attribute goes by the name of one that is yet to be told. -/
theorem attribute?_eq_none {a : Attribute} (comes : item.attribute? g = some a) :
    d.attribute? a.entity a.name = none := by
  obtain ⟨aMem, others⟩ := ne_of_told told (attributes_told_perm compiled)
    compiled.wellFormed.placed.attributeIndex.nodup comes
  refine List.find?_eq_none.mpr fun b bMem same => ?_
  obtain ⟨bMem, owner⟩ := (Draft.mem_attributesOf tracks.wellFormed.placed).mp bMem
  obtain ⟨c, cTold, look⟩ := tracks.exists_attribute bMem
  obtain ⟨cMem, differs⟩ := others c cTold
  have cOwner : c.entity = b.entity := (congrArg (·.entity) look :)
  have cName : c.name = b.name := (congrArg (·.name) look :)
  exact differs (compiled.eq_of_key cMem aMem (cOwner.trans owner)
    (cName ▸ eq_of_beq same))

/-- No attribute identifies the entity of an identifier that is yet to be told. -/
theorem identifying_eq_false {a : Attribute} (comes : item.attribute? g = some a)
    (identifies : a.identifying = true) : ∀ b ∈ d.attributesOf a.entity, b.identifying = false := by
  obtain ⟨aMem, others⟩ := ne_of_told told (attributes_told_perm compiled)
    compiled.wellFormed.placed.attributeIndex.nodup comes
  intro b bMem
  obtain ⟨bMem, owner⟩ := (Draft.mem_attributesOf tracks.wellFormed.placed).mp bMem
  obtain ⟨c, cTold, look⟩ := tracks.exists_attribute bMem
  obtain ⟨cMem, differs⟩ := others c cTold
  have cOwner : c.entity = b.entity := (congrArg (·.entity) look :)
  have cIdentifying : c.identifying = b.identifying := (congrArg (·.identifying) look :)
  rw [← cIdentifying, Bool.eq_false_iff]
  intro alsoIdentifies
  exact differs (compiled.wellFormed.placed.attributeIndex.eq_of_index cMem aMem
    (compiled.wellFormed.apart.identifiers c cMem a aMem (cOwner.trans owner) alsoIdentifies
      identifies))

/-- The name of a reference that the graph does not have is taken by an attribute that was told
before. -/
theorem isSome_attribute? {r : Relationship} (isItem : item = .relationship r)
    (mem : r ∈ g.relationships) (derivable : r.derivable = true)
    (none : item.attribute? g = none) :
    (d.attribute? r.source (g.entityName r.target)).isSome = true := by
  obtain ⟨b, bMem, owner, key⟩ := compiled.wellFormed.told.derivable r mem derivable
  rw [← g.entityName_eq] at key
  have bTold := (attributes_told_perm compiled).mem_iff.mpr bMem
  have pairwise := told_pairwise compiled
  rw [told, List.pairwise_append, List.pairwise_cons] at pairwise
  obtain ⟨teller, tellerMem, tells⟩ := List.mem_filterMap.mp bTold
  rw [told, List.mem_append, List.mem_cons] at tellerMem
  have early : teller ∈ before := by
    rcases tellerMem with early | rfl | late
    · exact early
    · rw [none] at tells
      contradiction
    · have sameOwner : b.entity = item.entity := by rw [owner, isItem, Item.entity]
      exact absurd sameOwner (pairwise.2.1.1 teller late none b tells)
  have shown : b.told ∈ d.attributes.map Attribute.told := by
    rw [tracks.attributes]
    exact List.mem_map_of_mem (List.mem_filterMap.mpr ⟨teller, early, tells⟩)
  obtain ⟨c, cMem, look⟩ := List.mem_map.mp shown
  have cOwner : c.entity = b.entity := (congrArg (·.entity) look :)
  have cName : c.name = b.name := (congrArg (·.name) look :)
  rw [Draft.attribute?, List.find?_isSome]
  refine ⟨c, (Draft.mem_attributesOf tracks.wellFormed.placed).mpr ⟨cMem, cOwner.trans owner⟩, ?_⟩
  rw [beq_iff_eq, cName, key]

end Items

end Tracks

/-- The type that is told of an attribute is the one that it has. -/
theorem typeOf_typeTold {g : Graph} (stated : g.Stated) {a : Attribute} (mem : a ∈ g.attributes)
    (plain : a.references = none) (type : a.type ≠ .reference) (d : Draft) (line : Nat) :
    (d.typeOf line a.name ((typeTold g a).map (·.name))).1 = a.type := by
  rw [typeTold]
  split
  · rw [Option.map_some]
    unfold Draft.typeOf
    cases isType : a.type with
    | reference => exact absurd isType type
    | _ => rfl
  · next untold =>
    have notDeclared : a.typeDeclared = false := by
      rw [Bool.or_eq_true, not_or] at untold
      simpa using untold.1
    exact (stated.guessed a mem plain notDeclared).symm

end Description

namespace Draft

/-- An attribute under a new name is added as it is stated. -/
theorem attachAttribute_of_fresh {d : Draft} (line : Nat) {entity : Nat} {name : String}
    (declaredType sample : Option String) {identifying : Bool}
    (fresh : d.attribute? entity name = none)
    (alone : identifying = true → ∀ b ∈ d.attributesOf entity, b.identifying = false) :
    ∃ n, Noted d n ∧ d.attachAttribute line entity name declaredType sample identifying =
      n.addAttribute
        { index := 0, name, entity, type := (d.typeOf line name declaredType).1
          typeDeclared := (d.typeOf line name declaredType).2.1, required := false, identifying
          sample, references := none, line } := by
  obtain ⟨-, noted, -⟩ := typeOf_spec d line name declaredType
  rcases found : d.typeOf line name declaredType with ⟨type, typeDeclared, d₁⟩
  rw [found] at noted
  simp -zeta only [attachAttribute, found]
  extract_lets owner current clash d₂ kept
  have noClash : clash = none := by
    simp only [clash]
    split
    · next identifies =>
      have none : current = none := by
        simp only [current, noted.attributesOf]
        refine List.find?_eq_none.mpr fun b mem => ?_
        simp [alone identifies b mem]
      rw [none, Option.filter_none]
    · rfl
  have same : d₂ = d₁ := by simp only [d₂, noClash]
  have stays : kept = identifying := by simp only [kept, noClash]; simp
  refine ⟨d₂, same ▸ noted, ?_⟩
  rw [same, noted.attribute?, fresh, stays]

/-- A relationship that is not there is added, one to one with a reference attribute unless the name
of that is taken. -/
theorem attachRelationship_of_fresh {d : Draft} {source target : Nat} {cardinality : Cardinality}
    (fresh : ∀ s ∈ d.relationships,
      ¬(s.source = source ∧ s.target = target ∧ s.derivable = cardinality.isSingle)) {line : Nat}
    {grown : Draft} (isGrown : grown = { d with relationships := d.relationships ++
      [{ index := d.relationships.length, source, target, cardinality, line }] }) :
    d.attachRelationship line source target cardinality =
      if cardinality.isSingle then
        if (d.attribute? source (d.entityName target)).isSome then
          grown.warn line (.referenceTaken (d.entityName source) (d.entityName target))
        else
          grown.addAttribute
            { index := 0, name := d.entityName target, entity := source, type := .reference,
              typeDeclared := false, required := false, identifying := false, sample := none,
              references := some target, line }
      else grown := by
  have isNew : (d.relationships.any fun s =>
      s.source == source && s.target == target && s.derivable == cardinality.isSingle) = false := by
    rw [List.any_eq_false]
    intro s mem same
    refine fresh s mem ?_
    simpa [and_assoc] using same
  rw [attachRelationship, isNew, isGrown]
  rfl

end Draft

namespace Description.Tracks

variable {doc : Document} {g : Graph} (compiled : Compiled doc g) (stated : g.Stated)
  {known : Nat} {before rest : List Item} {d : Draft} (tracks : Tracks g known before d)

include compiled tracks

/-! ### Items -/

include stated in
theorem attachAttribute {a : Attribute} (told : g.told = before ++ .attr a :: rest)
    (plain : a.references = none) (bound : a.entity < d.entities.length) (line : Nat) :
    Tracks g known (before ++ [.attr a]) (d.attachAttribute line a.entity a.name
      ((typeTold g a).map (·.name)) a.sample a.identifying) := by
  have mem := (ne_of_told told (attributes_told_perm compiled)
    compiled.wellFormed.placed.attributeIndex.nodup (rfl : (Item.attr a).attribute? g = some a)).1
  have notReference : a.type ≠ .reference := by
    rw [ne_eq, compiled.wellFormed.apart.referenceType a mem, plain]
    simp
  have wellFormed := tracks.wellFormed.attachAttribute line bound a.name
    ((typeTold g a).map (·.name)) a.sample a.identifying
  obtain ⟨n, noted, attached⟩ := Draft.attachAttribute_of_fresh line
    ((typeTold g a).map (·.name)) a.sample (tracks.attribute?_eq_none compiled told rfl)
    (tracks.identifying_eq_false compiled told rfl)
  rw [attached] at wellFormed ⊢
  rw [typeOf_typeTold stated mem plain notReference]
  rw [typeOf_typeTold stated mem plain notReference] at wellFormed
  obtain ⟨notes, rfl, -⟩ := noted
  refine tracks.holding wellFormed (Draft.outlines_addAttribute _ _) ?_ ?_ ?_ ?_
  · simp [Draft.addAttribute, Item.attribute?, Attribute.told, plain]
  · simp [Draft.addAttribute, Item.relationship?]
  · simp [Draft.addAttribute, Item.constraint?]
  · simp [Draft.addAttribute, Item.subtype?]

include stated in
theorem attachRelationship {r : Relationship} (told : g.told = before ++ .relationship r :: rest)
    (source : r.source < d.entities.length) (target : r.target < d.entities.length) (line : Nat) :
    Tracks g known (before ++ [.relationship r])
      (d.attachRelationship line r.source r.target r.cardinality) := by
  obtain ⟨rMem, others⟩ := ne_of_told told (relationships_told_perm compiled)
    compiled.wellFormed.apart.relationshipIndex.nodup
    (rfl : (Item.relationship r).relationship? = some r)
  have fresh : ∀ s ∈ d.relationships,
      ¬(s.source = r.source ∧ s.target = r.target ∧ s.derivable = r.cardinality.isSingle) := by
    rintro s mem ⟨sSource, sTarget, sDerivable⟩
    obtain ⟨c, cTold, look⟩ := tracks.exists_relationship mem
    obtain ⟨cMem, differs⟩ := others c cTold
    have cSource : c.source = s.source := (congrArg (·.source) look :)
    have cTarget : c.target = s.target := (congrArg (·.target) look :)
    have cDerivable : c.derivable = s.derivable := (congrArg (·.derivable) look :)
    exact differs (compiled.eq_of_index cMem rMem (compiled.wellFormed.apart.links c cMem r rMem
      (cSource.trans sSource) (cTarget.trans sTarget) (cDerivable.trans sDerivable)))
  have named := tracks.entityName target
  have wellFormed := tracks.wellFormed.attachRelationship line source target r.cardinality
  rw [Draft.attachRelationship_of_fresh fresh rfl, named] at wellFormed ⊢
  cases comes : (Item.relationship r).attribute? g with
  | some a =>
    obtain ⟨aMem, owner, references, derivable, -⟩ :=
      of_attribute?_relationship compiled rMem comes
    have isReference := compiled.name_of_references aMem references
    have free := tracks.attribute?_eq_none compiled told comes
    rw [owner, isReference] at free
    have look : a.told =
        { index := 0, name := g.entityName r.target, entity := r.source, type := .reference
          typeDeclared := false, required := false, identifying := false, sample := none
          references := some r.target, line := 0 } := by
      have isSome : a.references.isSome = true := by simp [references]
      rw [Attribute.told, isReference, owner, references, stated.bare a aMem isSome,
        compiled.wellFormed.apart.referencePlain a aMem isSome,
        (compiled.wellFormed.apart.referenceType a aMem).mpr isSome]
    have single : r.cardinality.isSingle = true := derivable
    rw [if_pos single, free, if_neg (by simp)] at wellFormed ⊢
    refine tracks.holding wellFormed (Draft.outlines_addAttribute _ _) ?_ ?_ ?_ ?_
    · rw [comes, Option.map_some, look]
      simp [Draft.addAttribute, Attribute.told]
    · simp [Draft.addAttribute, Item.relationship?, Relationship.told]
    · simp [Draft.addAttribute, Item.constraint?]
    · simp [Draft.addAttribute, Item.subtype?]
  | none =>
    have grown : ∀ e : Draft, e.WellFormed → e.entities = d.entities →
        e.attributes = d.attributes → e.relationships = d.relationships ++
          [⟨d.relationships.length, r.source, r.target, r.cardinality, line⟩] →
        e.rules = d.rules → e.subtypes = d.subtypes →
        Tracks g known (before ++ [.relationship r]) e := by
      intro e wellFormed entities attributes relationships rules subtypes
      refine tracks.holding wellFormed (by rw [entities]) ?_ ?_ ?_ ?_
      · simp [attributes, comes]
      · simp [relationships, Item.relationship?, Relationship.told]
      · simp [rules, Item.constraint?]
      · simp [subtypes, Item.subtype?]
    by_cases derivable : r.cardinality.isSingle = true
    · have taken := tracks.isSome_attribute? compiled told rfl rMem derivable comes
      rw [if_pos derivable, if_pos taken] at wellFormed ⊢
      exact grown _ wellFormed rfl rfl rfl rfl rfl
    · rw [if_neg derivable] at wellFormed ⊢
      exact grown _ wellFormed rfl rfl rfl rfl rfl

omit compiled in
theorem setAside {c : Constraint} (entity : c.entity < d.entities.length)
    (target : ∀ target count, c.demand.pending = .minCount target count →
      target < d.entities.length) (line : Nat) :
    Tracks g known (before ++ [.constraint c]) (d.setAside line c.entity c.demand.pending) := by
  refine tracks.holding (tracks.wellFormed.setAside line entity target) rfl ?_ ?_ ?_ ?_
  · simp [Draft.setAside, Item.attribute?]
  · simp [Draft.setAside, Item.relationship?]
  · simp [Draft.setAside, Item.constraint?, PendingRule.told, Constraint.pending]
  · simp [Draft.setAside, Item.subtype?]

omit compiled in
theorem addSubtype (rule : SubtypeRule) (subtype : rule.subtype < d.entities.length)
    (base : rule.base < d.entities.length)
    (target : ∀ target count, rule.predicate = some (.related target count) →
      target < d.entities.length) (line : Nat) :
    Tracks g known (before ++ [.subtype rule])
      { d with subtypes := d.subtypes ++ [{ rule with line }] } := by
  refine tracks.holding { tracks.wellFormed with subtypes := ?_ } rfl ?_ ?_ ?_ ?_
  · intro other mem
    rcases List.mem_append.mp mem with old | new
    · exact tracks.wellFormed.subtypes other old
    · rw [List.mem_singleton.mp new]
      exact ⟨subtype, base, target⟩
  · simp [Item.attribute?]
  · simp [Item.relationship?]
  · simp [Item.constraint?]
  · simp [Item.subtype?, SubtypeRule.told]

omit tracks in
/-- What is told is in the graph, and so is what it mentions. -/
theorem of_mem_told {item : Item} (mem : item ∈ g.told) :
    item.Within g ∧ (∀ a, item = .attr a → a.references = none) ∧
      ∀ i ∈ item.mentions, i < g.entities.length := by
  obtain ⟨e, -, listed⟩ := List.mem_flatMap.mp mem
  obtain ⟨within, -, plain⟩ := (mem_items_iff (.of_compiled compiled)).mp listed
  refine ⟨within, ?_, ?_⟩
  · rintro a rfl
    exact references_eq_none compiled within (plain a rfl)
  · cases item with
    | attr a => simpa [Item.mentions] using compiled.closed.owners a within
    | relationship r => simpa [Item.mentions] using compiled.closed.ends r within
    | constraint c =>
      obtain ⟨entity, targets⟩ := compiled.closed.constraints c within
      obtain ⟨owner, demand, line⟩ := c
      cases demand with
      | onAttribute rule attr derived => simpa [Item.mentions] using entity
      | minCount target count i =>
        simpa [Item.mentions] using And.intro entity (targets target count i rfl).1
    | subtype rule =>
      obtain ⟨subtype, base, targets⟩ := compiled.closed.subtypes rule within
      obtain ⟨subject, base', predicate, line⟩ := rule
      rcases predicate with _ | ⟨target, count⟩ | ⟨name⟩
      · simpa [Item.mentions] using And.intro subtype base
      · simpa [Item.mentions] using And.intro subtype (And.intro base (targets target count rfl))
      · simpa [Item.mentions] using And.intro subtype base

omit compiled in
/-- A position that has been met is one of the draft. -/
theorem lt_length {i : Nat} (bound : i < g.entities.length) (isMet : i < known) :
    i < d.entities.length := by
  have := tracks.length_entities
  omega

section Turn

variable {f : Fact}

include stated

theorem attach_constraint {c : Constraint} (turn : InOrder known (Item.constraint c).mentions)
    (bounds : ∀ i ∈ (Item.constraint c).mentions, i < g.entities.length)
    (content : f.content = (Item.constraint c).fact g) :
    Tracks g (met known (Item.constraint c).mentions) (before ++ [.constraint c]) (d.attach f) := by
  obtain ⟨subject, assertion⟩ := Prod.mk.inj content
  unfold Draft.attach
  rw [subject, assertion]
  obtain ⟨entity, demand, line⟩ := c
  cases demand with
  | onAttribute rule attr derived =>
    have bound : entity < g.entities.length := bounds _ (by simp [Item.mentions])
    obtain ⟨place, grown⟩ := tracks.resolve compiled stated turn.1 bound f.line
    simp only [Item.entity, Item.assertion, place]
    have added := grown.setAside (c := ⟨entity, .onAttribute rule attr derived, line⟩)
      (grown.lt_length bound (by omega)) (by simp [Demand.pending]) f.line
    cases rule <;> exact added
  | minCount target count i =>
    have bound : entity < g.entities.length := bounds _ (by simp [Item.mentions])
    have targetBound : target < g.entities.length := bounds _ (by simp [Item.mentions])
    obtain ⟨place, grown⟩ := tracks.resolve compiled stated turn.1 bound f.line
    obtain ⟨place', grown'⟩ := grown.resolve compiled stated turn.2.1 targetBound f.line
    simp only [Item.entity, Item.assertion, Demand.named, Draft.attachRule, place, place']
    refine grown'.setAside (c := ⟨entity, .minCount target count i, line⟩)
      (grown'.lt_length bound (by omega)) ?_ f.line
    rintro _ _ ⟨⟩
    exact grown'.lt_length targetBound (by omega)

theorem attach_subtype {rule : SubtypeRule} (turn : InOrder known (Item.subtype rule).mentions)
    (bounds : ∀ i ∈ (Item.subtype rule).mentions, i < g.entities.length)
    (content : f.content = (Item.subtype rule).fact g) :
    Tracks g (met known (Item.subtype rule).mentions) (before ++ [.subtype rule]) (d.attach f) := by
  obtain ⟨subject, assertion⟩ := Prod.mk.inj content
  unfold Draft.attach
  rw [subject, assertion]
  obtain ⟨more, mentions⟩ := mentions_subtype rule
  have subtypeBound : rule.subtype < g.entities.length := bounds _ (by simp [mentions])
  have baseBound : rule.base < g.entities.length := bounds _ (by simp [mentions])
  obtain ⟨subtypeTurn, baseTurn, -⟩ := mentions ▸ turn
  obtain ⟨place, grown⟩ := tracks.resolve compiled stated subtypeTurn subtypeBound f.line
  obtain ⟨place', grown'⟩ := grown.resolve compiled stated baseTurn baseBound f.line
  have subtypeMet : rule.subtype < max (max known (rule.subtype + 1)) (rule.base + 1) := by omega
  have baseMet : rule.base < max (max known (rule.subtype + 1)) (rule.base + 1) := by omega
  simp only [Item.entity, Item.assertion, place, place']
  obtain ⟨subtype, base, predicate, line⟩ := rule
  rcases predicate with _ | ⟨target, count⟩ | ⟨name⟩
  · exact grown'.addSubtype ⟨subtype, base, none, line⟩ (grown'.lt_length subtypeBound subtypeMet)
      (grown'.lt_length baseBound baseMet) (by simp) f.line
  · have targetBound : target < g.entities.length := bounds _ (by simp [Item.mentions])
    obtain ⟨place'', grown''⟩ := grown'.resolve compiled stated turn.2.2.1 targetBound f.line
    simp only [Option.map_some, Predicate.named, Draft.predicateOf, place'']
    refine grown''.addSubtype ⟨subtype, base, some (.related target count), line⟩
      (grown''.lt_length subtypeBound (Nat.lt_of_lt_of_le subtypeMet (Nat.le_max_left ..)))
      (grown''.lt_length baseBound (Nat.lt_of_lt_of_le baseMet (Nat.le_max_left ..))) ?_ f.line
    rintro _ _ ⟨⟩
    exact grown''.lt_length targetBound (by omega)
  · exact grown'.addSubtype ⟨subtype, base, some (.hasAttribute name), line⟩
      (grown'.lt_length subtypeBound subtypeMet) (grown'.lt_length baseBound baseMet) (by simp)
      f.line

/-- To attach the fact of the item whose turn it is adds what the item tells. -/
theorem attach {item : Item} (told : g.told = before ++ item :: rest)
    (turn : InOrder known item.mentions) (content : f.content = item.fact g) :
    Tracks g (met known item.mentions) (before ++ [item]) (d.attach f) := by
  obtain ⟨-, plain, bounds⟩ := of_mem_told compiled (show item ∈ g.told by simp [told])
  cases item with
  | attr a =>
    obtain ⟨subject, assertion⟩ := Prod.mk.inj content
    unfold Draft.attach
    rw [subject, assertion]
    have bound : a.entity < g.entities.length := bounds _ (by simp [Item.mentions])
    obtain ⟨place, grown⟩ := tracks.resolve compiled stated turn.1 bound f.line
    simp only [Item.entity, Item.assertion, place]
    exact grown.attachAttribute compiled stated told (plain a rfl)
      (grown.lt_length bound (by omega)) f.line
  | relationship r =>
    obtain ⟨subject, assertion⟩ := Prod.mk.inj content
    unfold Draft.attach
    rw [subject, assertion]
    have source : r.source < g.entities.length := bounds _ (by simp [Item.mentions])
    have target : r.target < g.entities.length := bounds _ (by simp [Item.mentions])
    obtain ⟨place, grown⟩ := tracks.resolve compiled stated turn.1 source f.line
    obtain ⟨place', grown'⟩ := grown.resolve compiled stated turn.2.1 target f.line
    simp only [Item.entity, Item.assertion, place, place']
    exact grown'.attachRelationship compiled stated told (grown'.lt_length source (by omega))
      (grown'.lt_length target (by omega)) f.line
  | constraint c => exact tracks.attach_constraint compiled stated turn bounds content
  | subtype rule => exact tracks.attach_subtype compiled stated turn bounds content

end Turn

include stated in
/-- To attach the facts of all items in their turn adds all that is told. -/
theorem attach_all {facts : List Fact} (told : g.told = before ++ rest)
    (turn : InOrder known (rest.flatMap Item.mentions))
    (contents : facts.map (·.content) = rest.map (·.fact g)) :
    Tracks g (met known (rest.flatMap Item.mentions)) g.told (facts.foldl Draft.attach d) := by
  induction rest generalizing known before d facts with
  | nil =>
    rw [List.map_eq_nil_iff.mp contents, told, List.append_nil]
    exact tracks
  | cons item rest ih =>
    cases facts with
    | nil => simp at contents
    | cons f facts =>
      obtain ⟨first, others⟩ := List.cons.inj contents
      rw [List.flatMap_cons, inOrder_append] at turn
      rw [List.flatMap_cons, met_append, List.foldl_cons]
      exact ih (tracks.attach compiled stated told turn.1 first) (by simp [told]) turn.2 others

end Description.Tracks

end FactModel
