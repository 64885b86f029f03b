import FactModel.Artifact.Description
import FactModel.Proofs.Bullet.Sentences
import FactModel.Proofs.Graph.Soundness

/-!
# The items of a description

The description of an entity tells one thing after the other: its attributes, its relationships,
its constraints and its subtype rules.  Each item is one bullet and stands for one fact.  An item is
legible when the names, examples and counts in it cannot be taken for anything else; its bullet then
states its fact.
-/

namespace FactModel

open Bullet Text

/-- The names of the declared entities. -/
def Graph.declaredNames (g : Graph) : List String :=
  (g.entities.filter (·.declared)).map (·.name)

/-- A demand with the names of what it speaks of. -/
def Demand.named (g : Graph) : Demand → Rule
  | .onAttribute .notNull attr _ => .notNull attr
  | .onAttribute .inPast attr _ => .inPast attr
  | .onAttribute (.like pattern) attr _ => .like attr pattern
  | .minCount target count _ => .minCount (g.entityName target) count

/-- A predicate with the names of what it speaks of. -/
def Predicate.named (g : Graph) : Predicate → Condition
  | .related target count => .related (g.entityName target) count
  | .hasAttribute name => .hasAttribute name

namespace Description

/-- What one bullet of a description tells. -/
inductive Item where
  | attr (a : Attribute)
  | relationship (r : Relationship)
  | constraint (c : Constraint)
  | subtype (rule : SubtypeRule)
  deriving DecidableEq

/-- The type that is told of an attribute. -/
def typeTold (g : Graph) (a : Attribute) : Option SemanticType :=
  if a.typeDeclared || (g.indexOf? a.name).isSome then some a.type else none

/-- The quotes around a sample. -/
def quoteMark (sample : String) : Char :=
  if sample.toList.contains '"' then '\'' else '"'

namespace Item

/-- The entity that an item tells of. -/
def entity : Item → Nat
  | attr a => a.entity
  | relationship r => r.source
  | constraint c => c.entity
  | subtype rule => rule.subtype

/-- The bullet of an item. -/
def bullet (g : Graph) : Item → String
  | attr a => attributeBullet g (g.entityName a.entity) a
  | relationship r =>
    relationshipBullet (g.entityName r.source) (g.entityName r.target) r.cardinality
  | constraint c => constraintBullet g c
  | subtype rule => subtypeBullet g (g.entityName rule.subtype) rule

/-- What an item says of its entity. -/
def assertion (g : Graph) : Item → Assertion
  | attr a => .hasAttribute a.name ((typeTold g a).map (·.name)) a.sample a.identifying
  | relationship r => .relatedTo (g.entityName r.target) r.cardinality
  | constraint c => .obeys (c.demand.named g)
  | subtype rule => .isA (g.entityName rule.base) (rule.predicate.map (·.named g))

/-- The fact that an item stands for. -/
def fact (g : Graph) (item : Item) : String × Assertion :=
  (g.entityName item.entity, item.assertion g)

/-- Whether an item tells of something that a graph has. -/
def Within (g : Graph) : Item → Prop
  | attr a => a ∈ g.attributes
  | relationship r => r ∈ g.relationships
  | constraint c => c ∈ g.constraints
  | subtype rule => rule ∈ g.subtypeRules

end Item

/-- The item that tells an explicit attribute. -/
def attributeItem (g : Graph) (a : Attribute) : Item :=
  match referred? g a with
  | some r => .relationship r
  | none => .attr a

/-- The relationships of an entity that no reference attribute tells. -/
def untold (g : Graph) (entity : Entity) : List Relationship :=
  (g.outgoing entity.index).filter fun r => !(told g entity).contains r.index

/-- What is told of an entity. -/
def items (g : Graph) (e : Entity) : List Item :=
  (g.attributesOf e.index).map (attributeItem g) ++ (untold g e).map .relationship ++
    (g.constraintsOf e.index).map .constraint ++ (g.subtypeRulesOf e.index).map .subtype

theorem of_referred?_eq_some {g : Graph} {a : Attribute} {r : Relationship}
    (found : referred? g a = some r) :
    r ∈ g.relationships ∧ r.source = a.entity ∧ some r.target = a.references ∧
      r.derivable = true := by
  have mem := List.mem_filter.mp (List.mem_of_find?_eq_some found)
  have same := List.find?_some found
  simp only [Bool.and_eq_true, beq_iff_eq] at same mem
  exact ⟨mem.1, mem.2, same.1, same.2⟩

/-- A graph whose elements stand at the positions that they carry. -/
structure Positioned (g : Graph) : Prop where
  placed : Arena.Placed g.entities g.attributes
  relationshipIndex : Arena.Indexed Relationship.index g.relationships

theorem Positioned.of_compiled {doc : Document} {g : Graph} (compiled : Compiled doc g) :
    Positioned g :=
  ⟨compiled.wellFormed.placed, compiled.wellFormed.apart.relationshipIndex⟩

section Positioned

variable {g : Graph} (positioned : Positioned g) {e : Entity}

include positioned

theorem entityName_index (mem : e ∈ g.entities) : g.entityName e.index = e.name := by
  have found : g.entities[e.index]? = some e := positioned.placed.entityIndex.getElem? mem
  rw [Graph.entityName, found]
  rfl

theorem mem_attributesOf {i : Nat} {a : Attribute} :
    a ∈ g.attributesOf i ↔ a ∈ g.attributes ∧ a.entity = i :=
  Draft.mem_attributesOf (d := g.draft) positioned.placed

/-- The bullets of an entity are those of its items. -/
theorem bullets_eq (mem : e ∈ g.entities) : bullets g e = (items g e).map (Item.bullet g) := by
  have named := entityName_index positioned mem
  have attributes : attributeBullets g e =
      ((g.attributesOf e.index).map (attributeItem g)).map (Item.bullet g) := by
    rw [attributeBullets, List.map_map]
    refine List.map_congr_left fun a aMem => ?_
    have owner := ((mem_attributesOf positioned).mp aMem).2
    cases found : referred? g a with
    | none => simp only [Function.comp_apply, attributeItem, found, Item.bullet, owner, named]
    | some r =>
      have source := (of_referred?_eq_some found).2.1
      simp only [Function.comp_apply, attributeItem, found, Item.bullet, source, owner, named]
  have relationships : relationshipBullets g e =
      ((untold g e).map Item.relationship).map (Item.bullet g) := by
    rw [relationshipBullets, List.map_map]
    refine List.map_congr_left fun r rMem => ?_
    have source := (List.mem_filter.mp (List.mem_filter.mp rMem).1).2
    rw [Function.comp_apply, Item.bullet, eq_of_beq source, named]
  have subtypes : (g.subtypeRulesOf e.index).map (subtypeBullet g e.name) =
      ((g.subtypeRulesOf e.index).map Item.subtype).map (Item.bullet g) := by
    rw [List.map_map]
    refine List.map_congr_left fun rule ruleMem => ?_
    have subtype := (List.mem_filter.mp ruleMem).2
    rw [Function.comp_apply, Item.bullet, eq_of_beq subtype, named]
  have constraints : (g.constraintsOf e.index).map (constraintBullet g) =
      ((g.constraintsOf e.index).map Item.constraint).map (Item.bullet g) := by
    rw [List.map_map]
    rfl
  rw [bullets, items, attributes, relationships, constraints, subtypes, List.map_append,
    List.map_append, List.map_append]

/-- The items of an entity are those that tell of it.  What refers to another entity is told as a
relationship. -/
theorem mem_items_iff {item : Item} : item ∈ items g e ↔
    item.Within g ∧ item.entity = e.index ∧ ∀ a, item = .attr a → referred? g a = none := by
  rw [items, List.mem_append, List.mem_append, List.mem_append, List.mem_map, List.mem_map,
    List.mem_map, List.mem_map]
  constructor
  · rintro (((⟨a, aMem, rfl⟩ | ⟨r, rMem, rfl⟩) | ⟨c, cMem, rfl⟩) | ⟨rule, ruleMem, rfl⟩)
    · rcases (mem_attributesOf positioned).mp aMem with ⟨inGraph, owner⟩
      rw [attributeItem]
      split
      · next r found =>
        rcases of_referred?_eq_some found with ⟨rMem, source, -⟩
        exact ⟨rMem, source.trans owner, by simp⟩
      · next none =>
        refine ⟨inGraph, owner, ?_⟩
        rintro b ⟨⟩
        exact none
    · rcases List.mem_filter.mp (List.mem_filter.mp rMem).1 with ⟨inGraph, source⟩
      exact ⟨inGraph, eq_of_beq source, by simp⟩
    · rcases List.mem_filter.mp cMem with ⟨inGraph, entity⟩
      exact ⟨inGraph, eq_of_beq entity, by simp⟩
    · rcases List.mem_filter.mp ruleMem with ⟨inGraph, subtype⟩
      exact ⟨inGraph, eq_of_beq subtype, by simp⟩
  · rintro ⟨within, owner, plain⟩
    cases item with
    | attr a =>
      refine .inl (.inl (.inl ⟨a, (mem_attributesOf positioned).mpr ⟨within, owner⟩, ?_⟩))
      rw [attributeItem, plain a rfl]
    | relationship r =>
      have isOutgoing : r ∈ g.outgoing e.index := List.mem_filter.mpr ⟨within, beq_iff_eq.mpr owner⟩
      by_cases isTold : r.index ∈ told g e
      · -- The attribute by which it is told refers to this very relationship.
        rcases List.mem_filterMap.mp isTold with ⟨a, aMem, found⟩
        rcases Option.map_eq_some_iff.mp found with ⟨other, found, same⟩
        have otherMem := (of_referred?_eq_some found).1
        have isThis := positioned.relationshipIndex.eq_of_index otherMem within same
        refine .inl (.inl (.inl ⟨a, aMem, ?_⟩))
        rw [attributeItem, found, isThis]
      · refine .inl (.inl (.inr ⟨r, List.mem_filter.mpr ⟨isOutgoing, ?_⟩, rfl⟩))
        simpa using isTold
    | constraint c =>
      exact .inl (.inr ⟨c, List.mem_filter.mpr ⟨within, beq_iff_eq.mpr owner⟩, rfl⟩)
    | subtype rule =>
      exact .inr ⟨rule, List.mem_filter.mpr ⟨within, beq_iff_eq.mpr owner⟩, rfl⟩

end Positioned

end Description

end FactModel
