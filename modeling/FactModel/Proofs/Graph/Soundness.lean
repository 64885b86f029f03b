import FactModel.Graph.Lookup
import FactModel.Proofs.Derivation.Offers
import FactModel.Proofs.Steps

/-!
# Compiled graphs are well formed

Whatever text a graph is compiled from, its lists form an arena: what one element stores of another
is a position that there is, and elements that are told apart by name are apart.  The look-ups of
later passes rest on this.
-/

namespace FactModel

open Arena

/-! ## Positions -/

/-- All positions that the elements of a graph store are positions of the graph. -/
structure Graph.Closed (g : Graph) : Prop where
  listed : ∀ e ∈ g.entities, ∀ i ∈ e.attributeIds, i < g.attributes.length
  owners : ∀ a ∈ g.attributes, a.entity < g.entities.length
  references : ∀ a ∈ g.attributes, ∀ target, a.references = some target →
    target < g.entities.length
  ends : ∀ r ∈ g.relationships, r.source < g.entities.length ∧ r.target < g.entities.length
  derived : ∀ d ∈ g.derived, d.entity < g.entities.length ∧
    (∀ i ∈ d.path, i < g.relationships.length) ∧ d.source < g.attributes.length
  constraints : ∀ c ∈ g.constraints, c.entity < g.entities.length ∧
    ∀ target count relationship, c.demand = .minCount target count relationship →
      target < g.entities.length ∧ relationship < g.relationships.length
  subtypes : ∀ rule ∈ g.subtypeRules, rule.subtype < g.entities.length ∧
    rule.base < g.entities.length ∧
    ∀ target count, rule.predicate = some (.related target count) → target < g.entities.length

namespace Graph

variable {g : Graph}

theorem mem_of_mem_attributesOf {entity : Nat} {a : Attribute} (mem : a ∈ g.attributesOf entity) :
    a ∈ g.attributes := by
  unfold attributesOf at mem
  split at mem
  · obtain ⟨i, -, found⟩ := List.mem_filterMap.mp mem
    exact List.mem_of_getElem? found
  · contradiction

theorem checkEntity_eq_ok {entity : Nat} (inside : entity < g.entities.length) :
    g.checkEntity entity = .ok () := by
  rw [checkEntity, entityAt_eq_ok inside]
  rfl

namespace Closed

variable (closed : g.Closed)

include closed

theorem checkAttributes_eq_ok {e : Entity} (mem : e ∈ g.entities) :
    g.checkAttributes e = .ok () := by
  refine forM_eq_ok fun attr listed => ?_
  rw [attributeAt_eq_ok (closed.listed e mem attr listed)]
  rfl

theorem checkPath_eq_ok {path : List Nat} (inside : ∀ i ∈ path, i < g.relationships.length) :
    g.checkPath path = .ok () := by
  induction path with
  | nil => rfl
  | cons i path ih =>
    rw [List.forall_mem_cons] at inside
    have leads := (closed.ends _ (List.getElem_mem inside.1)).2
    simp only [checkPath, targetAt, List.getElem?_eq_getElem inside.1, entityAt_eq_ok leads]
    exact ih inside.2

theorem checkConstraint_eq_ok {c : Constraint} (mem : c ∈ g.constraints) :
    g.checkConstraint c = .ok () := by
  obtain ⟨entity, counted⟩ := closed.constraints c mem
  rw [checkConstraint, checkEntity_eq_ok entity]
  cases demand : c.demand with
  | onAttribute => rfl
  | minCount target count relationship =>
    exact checkEntity_eq_ok (counted target count relationship demand).1

theorem checkSubtypeRule_eq_ok {rule : SubtypeRule} (mem : rule ∈ g.subtypeRules) :
    g.checkSubtypeRule rule = .ok () := by
  obtain ⟨isSubtype, base, related⟩ := closed.subtypes rule mem
  rw [checkSubtypeRule, checkEntity_eq_ok isSubtype, checkEntity_eq_ok base]
  rcases predicate : rule.predicate with _ | ⟨target, count⟩ | name
  · rfl
  · exact checkEntity_eq_ok (related target count predicate)
  · rfl

end Closed

end Graph

/-- Every compiled graph is a well-formed arena.

* Elements carry their own positions, and all positions stored anywhere are in range.
* An attribute is listed once by its owner and by no other entity.
* Names tell entities apart.  The declared ones come first, in the order of the text; each of the
  others is reported once.
* The references of an attribute go with its type, a reference identifies nothing, and an entity has
  at most one identifier.
* Between two entities there is at most one relationship of a kind.
* Along a derivable relationship the source has one reference attribute for the target, or else
  another attribute of the target's name; and a reference attribute, named after its target, belongs
  to one derivable relationship. -/
structure Graph.Arena (g : Graph) (declared : List String) : Prop where
  entityIndex : ∀ (i : Nat) (e : Entity), g.entities[i]? = some e → e.index = i
  attributeIndex : ∀ (i : Nat) (a : Attribute), g.attributes[i]? = some a → a.index = i
  relationshipIndex : ∀ (i : Nat) (r : Relationship), g.relationships[i]? = some r → r.index = i
  owned : ∀ a ∈ g.attributes, ∀ e ∈ g.entities,
    e.attributeIds.count a.index = if e.index = a.entity then 1 else 0
  closed : g.Closed
  keys : (g.entities.map (Name.key ·.name)).Nodup
  introduced : ∃ heads stubs, g.entities = heads ++ stubs ∧
    (∀ e ∈ heads, e.declared = true) ∧ (∀ e ∈ stubs, e.declared = false) ∧
    heads.map (·.name) = declared ∧
    g.warningsOf .missingDeclaration =
      stubs.map fun e => { finding := .undeclared e.name, line := e.line }
  referenceType : ∀ a ∈ g.attributes, a.type = .reference ↔ a.references.isSome = true
  referencePlain : ∀ a ∈ g.attributes, a.type = .reference → a.identifying = false
  identifiers : ∀ entity, (g.attributesOf entity).countP (·.identifying) ≤ 1
  links : g.relationships.Pairwise fun r s =>
    ¬(r.source = s.source ∧ r.target = s.target ∧ r.derivable = s.derivable)
  told : ∀ r ∈ g.relationships, r.derivable = true →
    ((g.attributesOf r.source).countP (·.references == some r.target) = 1 ∧
        ∀ a ∈ g.attributesOf r.source,
          Name.key a.name = Name.key (g.entityName r.target) → a.type = .reference) ∨
      ((g.attributesOf r.source).countP (·.references == some r.target) = 0 ∧
        ∃ a ∈ g.attributesOf r.source, a.type ≠ .reference ∧
          Name.key a.name = Name.key (g.entityName r.target))
  reference : ∀ a ∈ g.attributes, ∀ target, a.references = some target →
    a.name = g.entityName target ∧
      ∃! r, r ∈ g.relationships ∧ r.derivable = true ∧ r.source = a.entity ∧ r.target = target

theorem Graph.entityName_eq (g : Graph) (entity : Nat) :
    g.entityName entity = nameAt g.draft.names entity :=
  Draft.entityName_eq g.draft entity

namespace Compiled

variable {doc : Document} {g : Graph} (compiled : Compiled doc g)

include compiled

theorem mem_attributesOf {entity : Nat} {a : Attribute} :
    a ∈ g.attributesOf entity ↔ a ∈ g.attributes ∧ a.entity = entity :=
  Draft.mem_attributesOf compiled.wellFormed.placed

theorem closed : g.Closed where
  listed := by
    intro e mem i listed
    rw [compiled.wellFormed.placed.listed e mem] at listed
    obtain ⟨a, aMem, rfl⟩ := List.mem_map.mp listed
    exact compiled.wellFormed.placed.attributeIndex.lt_length (List.mem_of_mem_filter aMem)
  owners := compiled.wellFormed.placed.ownerBound
  references := by
    intro a mem target references
    have bound := (compiled.wellFormed.told.reference a mem target references).1
    rw [Draft.length_names] at bound
    exact bound
  ends := fun r mem => compiled.ends_lt mem
  derived := by
    intro d mem
    obtain ⟨-, last, chain, a, aMem, -, source, -⟩ := compiled.chain_of_mem_derived mem
    refine ⟨compiled.shared.inGraph d mem, ?_, ?_⟩
    · intro i iMem
      obtain ⟨r, rMem, -, rfl⟩ := chain.exists_of_mem iMem
      exact compiled.wellFormed.apart.relationshipIndex.lt_length rMem
    · rw [← source]
      exact compiled.wellFormed.placed.attributeIndex.lt_length
        (compiled.mem_attributesOf.mp aMem).1
  constraints := compiled.constraints
  subtypes := compiled.wellFormed.subtypes

theorem count_attributeIds {a : Attribute} (aMem : a ∈ g.attributes) {e : Entity}
    (eMem : e ∈ g.entities) :
    e.attributeIds.count a.index = if e.index = a.entity then 1 else 0 := by
  have indexed := compiled.wellFormed.placed.attributeIndex
  rw [compiled.wellFormed.placed.listed e eMem]
  split
  · next owner =>
    refine List.count_eq_one_of_mem (indexed.nodup_map_filter _)
      (List.mem_map_of_mem (List.mem_filter.mpr ⟨aMem, ?_⟩))
    simp [owner]
  · next other =>
    rw [List.count_eq_zero]
    intro listed
    obtain ⟨b, bMem, same⟩ := List.mem_map.mp listed
    obtain ⟨bMem, owner⟩ := List.mem_filter.mp bMem
    rw [indexed.eq_of_index bMem aMem same] at owner
    exact other (eq_of_beq owner).symm

/-- The declared entities and the stubs, with the reports on the latter. -/
theorem introduced_split : ∃ heads stubs, g.entities = heads ++ stubs ∧
    (∀ e ∈ heads, e.declared = true) ∧ (∀ e ∈ stubs, e.declared = false) ∧
    heads.map (·.name) = doc.entityNames ∧
    g.warningsOf .missingDeclaration =
      stubs.map fun e => { finding := .undeclared e.name, line := e.line } := by
  obtain ⟨headNames, stubNames, order, names, reports⟩ := compiled.introduced
  obtain ⟨heads, stubs, split, headsEq, stubsEq⟩ := List.map_eq_append_iff.mp order
  refine ⟨heads, stubs, split, ?_, ?_, ?_, ?_⟩
  · intro e mem
    have shown := List.mem_map_of_mem (f := fun e : Entity => (e.name, e.declared, e.line)) mem
    rw [headsEq] at shown
    obtain ⟨h, -, same⟩ := List.mem_map.mp shown
    exact (congrArg (·.2.1) same).symm
  · intro e mem
    have shown := List.mem_map_of_mem (f := fun e : Entity => (e.name, e.declared, e.line)) mem
    rw [stubsEq] at shown
    obtain ⟨h, -, same⟩ := List.mem_map.mp shown
    exact (congrArg (·.2.1) same).symm
  · rw [← names]
    simpa [Function.comp_def] using congrArg (List.map (·.1)) headsEq
  · rw [reports]
    have same := congrArg (List.map fun h : String × Bool × Nat =>
      ({ finding := .undeclared h.1, line := h.2.2 } : Diagnostic)) stubsEq
    simpa [Function.comp_def] using same.symm

/-- Attributes of one entity whose names spell the same are the same. -/
theorem eq_of_key {a b : Attribute} (aMem : a ∈ g.attributes) (bMem : b ∈ g.attributes)
    (owner : a.entity = b.entity) (key : Name.key a.name = Name.key b.name) : a = b :=
  compiled.wellFormed.placed.attributeIndex.eq_of_index aMem bMem
    (compiled.wellFormed.apart.attributeKeys a aMem b bMem owner key)

theorem name_of_references {a : Attribute} (mem : a ∈ g.attributes) {target : Nat}
    (references : a.references = some target) : a.name = g.entityName target := by
  rw [g.entityName_eq]
  exact (compiled.wellFormed.told.reference a mem target references).2.1

/-- At most one attribute of an entity has a property that tells attributes apart. -/
theorem countP_attributesOf_le_one {p : Attribute → Bool} {entity : Nat}
    (unique : ∀ a ∈ g.attributesOf entity, ∀ b ∈ g.attributesOf entity,
      p a = true → p b = true → a = b) : (g.attributesOf entity).countP p ≤ 1 := by
  have nodup : (g.attributesOf entity).Nodup := by
    rw [compiled.attributesOf_eq]
    exact compiled.wellFormed.placed.attributeIndex.nodup.filter _
  have same : ∀ a ∈ (g.attributesOf entity).filter p, ∀ b ∈ (g.attributesOf entity).filter p,
      a = b := by
    intro a aMem b bMem
    obtain ⟨aMem, aHas⟩ := List.mem_filter.mp aMem
    obtain ⟨bMem, bHas⟩ := List.mem_filter.mp bMem
    exact unique a aMem b bMem aHas bHas
  rw [List.countP_eq_length_filter]
  match found : (g.attributesOf entity).filter p with
  | [] => exact Nat.zero_le 1
  | [a] => exact Nat.le_refl 1
  | a :: b :: rest =>
    have distinct := nodup.filter p
    rw [found] at same distinct
    have equal := same a (by simp) b (by simp)
    simp [equal] at distinct

/-- A derivable relationship is told by a reference attribute, or its name is taken. -/
theorem told_by {r : Relationship} (mem : r ∈ g.relationships) (derivable : r.derivable = true) :
    ((g.attributesOf r.source).countP (·.references == some r.target) = 1 ∧
        ∀ a ∈ g.attributesOf r.source,
          Name.key a.name = Name.key (g.entityName r.target) → a.type = .reference) ∨
      ((g.attributesOf r.source).countP (·.references == some r.target) = 0 ∧
        ∃ a ∈ g.attributesOf r.source, a.type ≠ .reference ∧
          Name.key a.name = Name.key (g.entityName r.target)) := by
  obtain ⟨a, aMem, owner, key⟩ := compiled.wellFormed.told.derivable r mem derivable
  rw [← g.entityName_eq] at key
  have aHad : a ∈ g.attributesOf r.source := compiled.mem_attributesOf.mpr ⟨aMem, owner⟩
  -- Whatever attribute spells the name of the target is this one.
  have sole (b : Attribute) (bHad : b ∈ g.attributesOf r.source)
      (bKey : Name.key b.name = Name.key (g.entityName r.target)) : b = a := by
    obtain ⟨bMem, bOwner⟩ := compiled.mem_attributesOf.mp bHad
    exact compiled.eq_of_key bMem aMem (bOwner.trans owner.symm) (bKey.trans key.symm)
  have refers (b : Attribute) (bHad : b ∈ g.attributesOf r.source)
      (isTarget : (b.references == some r.target) = true) : b = a := by
    refine sole b bHad ?_
    rw [compiled.name_of_references (compiled.mem_attributesOf.mp bHad).1 (eq_of_beq isTarget)]
  cases references : a.references with
  | none =>
    refine .inr ⟨?_, a, aHad, ?_, key⟩
    · rw [List.countP_eq_zero]
      intro b bHad isTarget
      have same := refers b bHad isTarget
      subst same
      simp [references] at isTarget
    · intro type
      have := (compiled.wellFormed.apart.referenceType a aMem).mp type
      simp [references] at this
  | some target =>
    obtain ⟨bound, named, -⟩ := compiled.wellFormed.told.reference a aMem target references
    have isTarget : target = r.target := by
      refine eq_of_key_nameAt compiled.wellFormed.apart.keys bound
        (compiled.wellFormed.apart.ends r mem).2 ?_
      rw [← named, key, g.entityName_eq]
    subst isTarget
    refine .inl ⟨Nat.le_antisymm ?_ ?_, ?_⟩
    · refine compiled.countP_attributesOf_le_one fun b bHad c cHad bRefers cRefers => ?_
      rw [refers b bHad bRefers, refers c cHad cRefers]
    · exact List.countP_pos_iff.mpr ⟨a, aHad, by simp [references]⟩
    · intro b bHad bKey
      rw [sole b bHad bKey]
      exact (compiled.wellFormed.apart.referenceType a aMem).mpr (by simp [references])

theorem reference_belongs {a : Attribute} (mem : a ∈ g.attributes) {target : Nat}
    (references : a.references = some target) :
    ∃! r, r ∈ g.relationships ∧ r.derivable = true ∧ r.source = a.entity ∧ r.target = target := by
  obtain ⟨-, -, r, rMem, derivable, source, isTarget⟩ :=
    compiled.wellFormed.told.reference a mem target references
  refine ⟨r, ⟨rMem, derivable, source, isTarget⟩, ?_⟩
  rintro s ⟨sMem, sDerivable, sSource, sTarget⟩
  exact compiled.eq_of_index sMem rMem (compiled.wellFormed.apart.links s sMem r rMem
    (sSource.trans source.symm) (sTarget.trans isTarget.symm) (sDerivable.trans derivable.symm))

theorem links_pairwise : g.relationships.Pairwise fun r s =>
    ¬(r.source = s.source ∧ r.target = s.target ∧ r.derivable = s.derivable) := by
  refine compiled.wellFormed.apart.relationshipIndex.nodup.imp_of_mem ?_
  rintro r s rMem sMem differs ⟨source, target, derivable⟩
  exact differs (compiled.eq_of_index rMem sMem
    (compiled.wellFormed.apart.links r rMem s sMem source target derivable))

end Compiled

/-- Every text that compiles comes to a well-formed arena, whose declared entities are those that
its headers name. -/
theorem arena_of_compile {text : String} {g : Graph} (compiles : compile text = .ok g) :
    ∃ doc, Document.parse text = .ok doc ∧ g.Arena doc.entityNames := by
  obtain ⟨doc, read, compiled⟩ := compiled_of_compile compiles
  refine ⟨doc, read, ?_⟩
  have apart := compiled.wellFormed.apart
  constructor
  · exact compiled.wellFormed.placed.entityIndex
  · exact compiled.wellFormed.placed.attributeIndex
  · exact apart.relationshipIndex
  · intro a aMem e eMem
    exact compiled.count_attributeIds aMem eMem
  · exact compiled.closed
  · have keys := apart.keys
    rw [Draft.names, List.map_map] at keys
    exact keys
  · exact compiled.introduced_split
  · exact apart.referenceType
  · intro a mem type
    exact apart.referencePlain a mem ((apart.referenceType a mem).mp type)
  · intro entity
    refine compiled.countP_attributesOf_le_one fun a aHad b bHad aIdentifies bIdentifies => ?_
    obtain ⟨aMem, aOwner⟩ := compiled.mem_attributesOf.mp aHad
    obtain ⟨bMem, bOwner⟩ := compiled.mem_attributesOf.mp bHad
    exact compiled.wellFormed.placed.attributeIndex.eq_of_index aMem bMem
      (apart.identifiers a aMem b bMem (aOwner.trans bOwner.symm) aIdentifies bIdentifies)
  · exact compiled.links_pairwise
  · intro r mem derivable
    exact compiled.told_by mem derivable
  · intro a mem target references
    exact ⟨compiled.name_of_references mem references, compiled.reference_belongs mem references⟩

/-- An entity that is only referred to comes after the declared one. -/
theorem arena_with_stub : ∃ g, compile "**A**\n- A has a **B**.\n" = .ok g ∧
    g.entities.map (fun e => (e.name, e.declared)) = [("A", true), ("B", false)] ∧
      ∃ doc, Document.parse "**A**\n- A has a **B**.\n" = .ok doc ∧ g.Arena doc.entityNames := by
  have passes : compilesTo "**A**\n- A has a **B**.\n" (fun g =>
      decide (g.entities.map (fun e => (e.name, e.declared)) = [("A", true), ("B", false)])) =
        true := by
    decide +kernel
  obtain ⟨g, compiles, shown⟩ := of_compilesTo passes
  exact ⟨g, compiles, of_decide_eq_true shown, arena_of_compile compiles⟩

end FactModel
