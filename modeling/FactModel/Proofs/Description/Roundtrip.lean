import Mathlib.Data.Multiset.MapFold
import FactModel.Proofs.Derivation.Naming
import FactModel.Proofs.Description.Retelling
import FactModel.Proofs.Graph.Renumbering

/-!
# Compiling a description

A description of a legible graph compiles, and the graph that it compiles to states the same: the
same entities in the same order, and the same attributes, derived attributes, relationships,
constraints and subtype rules on them.  What is read back of the description is told to a draft; the
draft derives the same attributes, and its rules come to the same constraints.
-/

namespace FactModel

open Arena Description

/-! ## What a graph states -/

/-- What a graph states of an attribute: its owner by name, and whether it may be missing. -/
structure Attribute.Signature where
  owner : String
  name : String
  type : SemanticType
  identifying : Bool
  sample : Option String
  nullable : Bool
  deriving DecidableEq

def Attribute.signature (g : Graph) (a : Attribute) : Attribute.Signature where
  owner := g.entityName a.entity
  name := a.name
  type := a.type
  identifying := a.identifying
  sample := a.sample
  nullable := a.nullable

/-- What a graph states, by names. -/
@[ext]
structure Signature where
  entities : List (String × String × Bool)
  attributes : Multiset Attribute.Signature
  derived : Multiset (String × String × SemanticType)
  relationships : Multiset (String × String × Cardinality)
  constraints : Multiset (String × Rule)
  subtypeRules : Multiset (String × String × Option Condition)
  deriving DecidableEq

/-- The names, descriptions and declarations of the entities in order; the attributes; of derived
attributes the owner, the name and the type; of relationships the ends and the cardinality; the
demands on entities; and of subtype rules the entity, the base and the condition. -/
def Graph.signature (g : Graph) : Signature where
  entities := g.entities.map Entity.outline
  attributes := g.attributes.map (·.signature g)
  derived := g.derived.map fun a => (g.entityName a.entity, a.name, a.type)
  relationships := g.relationships.map fun r =>
    (g.entityName r.source, g.entityName r.target, r.cardinality)
  constraints := g.constraints.map fun c => (g.entityName c.entity, c.demand.named g)
  subtypeRules := g.subtypeRules.map fun rule =>
    (g.entityName rule.subtype, g.entityName rule.base, rule.predicate.map (·.named g))

/-- A graph that holds the same as another one but for places and lines. -/
structure Graph.Retells (h g : Graph) : Prop where
  entities : h.entities.map Entity.outline = g.entities.map Entity.outline
  attributes : (h.attributes.map Attribute.told).Perm (g.attributes.map Attribute.told)
  derived : h.derived.map (·.outline) = g.derived.map (·.outline)
  relationships : (h.relationships.map Relationship.told).Perm
    (g.relationships.map Relationship.told)
  constraints : (h.constraints.map Constraint.told).Perm (g.constraints.map Constraint.told)
  subtypeRules : (h.subtypeRules.map SubtypeRule.told).Perm (g.subtypeRules.map SubtypeRule.told)

/-! ## The same under the same names -/

theorem Constraint.requires_told (c : Constraint) (a : Attribute) :
    c.told.requires a.told = c.requires a := by
  obtain ⟨entity, demand, line⟩ := c
  cases demand <;> rfl

theorem Constraint.named_told (g : Graph) (c : Constraint) :
    (g.entityName c.told.entity, c.told.demand.named g) =
      (g.entityName c.entity, c.demand.named g) := by
  obtain ⟨entity, demand, line⟩ := c
  cases demand <;> rfl

theorem Demand.named_congr {g h : Graph} (names : h.entityName = g.entityName) (demand : Demand) :
    demand.named h = demand.named g := by
  cases demand with
  | onAttribute rule attr derived => cases rule <;> rfl
  | minCount target count i => rw [named, named, names]

theorem Predicate.named_congr {g h : Graph} (names : h.entityName = g.entityName)
    (predicate : Predicate) : predicate.named h = predicate.named g := by
  cases predicate with
  | related target count => rw [named, named, names]
  | hasAttribute name => rfl

/-- What the signature shows of an attribute under constraints. -/
def Attribute.shown (names : Nat → String) (constraints : List Constraint) (a : Attribute) :
    Attribute.Signature :=
  ⟨names a.entity, a.name, a.type, a.identifying, a.sample,
    !(constraints.any (·.requires a) || a.identifying)⟩

/-- An attribute may be missing unless it identifies or a constraint says otherwise. -/
theorem attributes_signature {text : String} {g : Graph} (compiles : compile text = .ok g) :
    g.signature.attributes = (g.attributes.map Attribute.told).map
      (Attribute.shown g.entityName (g.constraints.map Constraint.told)) := by
  obtain ⟨stated, optional, attributes⟩ := attributes_of_compile compiles
  rw [Graph.signature, attributes, List.map_map, List.map_map, List.map_map]
  refine congrArg _ (List.map_congr_left fun a mem => ?_)
  have required : (a.under g.constraints).required = g.constraints.any (·.requires a) := by
    simp [Attribute.under, optional a mem]
  simp only [Function.comp_apply, Attribute.shown, Attribute.signature, Attribute.nullable, required,
    List.any_map, Function.comp_def, Constraint.requires_told]
  rfl

namespace Graph.Retells

variable {g h : Graph} (retells : h.Retells g)

include retells

theorem entityName : h.entityName = g.entityName := by
  have names := congrArg (List.map (·.1)) retells.entities
  rw [List.map_map, List.map_map] at names
  funext i
  rw [Graph.entityName_eq, Graph.entityName_eq]
  exact congrArg (nameAt · i) names

/-- Compiled graphs that hold the same state the same. -/
theorem signature_eq {text text' : String} (compiles : compile text = .ok g)
    (again : compile text' = .ok h) : h.signature = g.signature := by
  have names := retells.entityName
  have shown {α β γ : Type} {look : α → β} {l l' : List α} (same : (l'.map look).Perm (l.map look))
      (show' : β → γ) : (l'.map fun a => show' (look a)).Perm (l.map fun a => show' (look a)) := by
    have images := same.map show'
    rwa [List.map_map, List.map_map] at images
  have attributes : h.signature.attributes = g.signature.attributes := by
    have sameShown : Attribute.shown h.entityName (h.constraints.map Constraint.told) =
        Attribute.shown g.entityName (g.constraints.map Constraint.told) := by
      funext a
      rw [Attribute.shown, Attribute.shown, names, retells.constraints.any_eq]
    rw [attributes_signature compiles, attributes_signature again, sameShown]
    exact Multiset.coe_eq_coe.mpr (retells.attributes.map _)
  have derived : h.signature.derived = g.signature.derived := by
    have outlines := congrArg (List.map fun o => (g.entityName o.1, o.2)) retells.derived
    rw [List.map_map, List.map_map] at outlines
    simp only [signature, names]
    exact congrArg Multiset.ofList outlines
  have relationships : h.signature.relationships = g.signature.relationships := by
    rw [signature, signature, names]
    exact Multiset.coe_eq_coe.mpr (shown retells.relationships fun r =>
      (g.entityName r.source, g.entityName r.target, r.cardinality))
  have constraints : h.signature.constraints = g.signature.constraints := by
    have told := shown retells.constraints fun c => (g.entityName c.entity, c.demand.named g)
    simp only [Constraint.named_told] at told
    simp only [signature, names, Demand.named_congr names]
    exact Multiset.coe_eq_coe.mpr told
  have subtypeRules : h.signature.subtypeRules = g.signature.subtypeRules := by
    have told := shown retells.subtypeRules fun rule =>
      (g.entityName rule.subtype, g.entityName rule.base, rule.predicate.map (·.named g))
    simp only [signature, names, Predicate.named_congr names]
    exact Multiset.coe_eq_coe.mpr told
  have entities : h.signature.entities = g.signature.entities := retells.entities
  exact Signature.ext entities attributes derived relationships constraints subtypeRules

end Graph.Retells

/-! ## From the draft to the graph -/

/-- Distinct keys tell the derived attributes of a compiled graph apart. -/
theorem Compiled.apart_derived {doc : Document} {g : Graph} (compiled : Compiled doc g) :
    DerivedAttribute.Apart g.derived := by
  intro a aMem b bMem owner key
  have nodup := (List.nodup_append.mp (compiled.keys_nodup b.entity)).2.1
  have aHad : a ∈ g.derivedOf b.entity := List.mem_filter.mpr ⟨aMem, beq_iff_eq.mpr owner⟩
  have bHad : b ∈ g.derivedOf b.entity := List.mem_filter.mpr ⟨bMem, by simp⟩
  exact congrArg _ (List.inj_on_of_nodup_map nodup aHad bHad key)

/-- No entity of a compiled graph is a subtype of itself. -/
theorem subtype_ne_base_of_compile {text : String} {g : Graph} (compiles : compile text = .ok g) :
    ∀ rule ∈ g.subtypeRules, rule.subtype ≠ rule.base := by
  obtain ⟨doc, read, built⟩ := parse_of_compile compiles
  obtain ⟨d, e, constraints, -, -, -, rfl⟩ := Graph.ofDocument_eq_ok built
  intro rule mem
  simpa using (List.mem_filter.mp mem).2

namespace Description.Tracks

section Whole

variable {doc : Document} {g : Graph} (compiled : Compiled doc g) {d : Draft}
  (tracks : Tracks g g.entities.length g.told d)

include tracks

theorem outlines : d.entities.map Entity.outline = g.entities.map Entity.outline := by
  rw [tracks.entities, List.take_length]

theorem length_eq : d.entities.length = g.entities.length := by
  rw [tracks.length_entities, Nat.min_self]

theorem entityName_eq : d.entityName = g.draft.entityName := by
  have names := congrArg (List.map (·.1)) tracks.outlines
  rw [List.map_map, List.map_map] at names
  funext i
  rw [Draft.entityName_eq, Draft.entityName_eq]
  exact congrArg (nameAt · i) names

include compiled

/-- The draft has the attributes of an entity in their order. -/
theorem attributesOf_told (i : Nat) :
    (d.attributesOf i).map Attribute.told = (g.draft.attributesOf i).map Attribute.told := by
  have shown (l : List Attribute) : (l.filter (·.entity == i)).map Attribute.told =
      (l.map Attribute.told).filter (·.entity == i) := by
    rw [List.filter_map]
    rfl
  have indexed : Indexed Entity.index g.entities := compiled.wellFormed.placed.entityIndex
  have owned : ∀ e ∈ g.entities, ∀ a ∈ g.attributesOf e.index, a.entity = e.index :=
    fun e _ a mem => (compiled.mem_attributesOf.mp mem).2
  have same : (g.entities.flatMap fun e => g.attributesOf e.index).filter (·.entity == i) =
      g.attributesOf i := by
    by_cases inside : i < g.entities.length
    · have place := indexed i _ (List.getElem?_eq_getElem inside)
      rw [← place, indexed.filter_flatMap owned (List.getElem_mem inside)]
    · have missing : g.attributesOf i = [] := by
        rw [Graph.attributesOf, List.getElem?_eq_none (by omega)]
      rw [missing, List.filter_eq_nil_iff]
      intro a mem same
      obtain ⟨e, eMem, had⟩ := List.mem_flatMap.mp mem
      have bound := indexed.lt_length eMem
      rw [← owned e eMem a had, eq_of_beq same] at bound
      exact inside bound
  rw [Draft.attributesOf_eq_filter tracks.wellFormed.placed, shown, tracks.attributes, ← shown,
    filterMap_attribute?_told compiled, same]
  rfl

/-- The draft has the derivable relationships of an entity in their order. -/
theorem derivableFrom_told (legible : g.Legible) (i : Nat) :
    (Derivation.derivableFrom d.relationships i).map Relationship.told =
      (Derivation.derivableFrom g.relationships i).map Relationship.told := by
  have shown (l : List Relationship) : (Derivation.derivableFrom l i).map Relationship.told =
      Derivation.derivableFrom (l.map Relationship.told) i := by
    rw [Derivation.derivableFrom, Derivation.derivableFrom, List.filter_map]
    rfl
  have same : Derivation.derivableFrom (g.told.filterMap Item.relationship?) i =
      Derivation.derivableFrom g.relationships i := by
    by_cases inside : i < g.entities.length
    · have place := compiled.wellFormed.placed.entityIndex i _ (List.getElem?_eq_getElem inside)
      rw [← place]
      exact derivable_told compiled legible (List.getElem_mem inside)
    · have none (l : List Relationship) (sub : ∀ r ∈ l, r ∈ g.relationships) :
          Derivation.derivableFrom l i = [] := by
        rw [Derivation.derivableFrom, List.filter_eq_nil_iff]
        intro r mem same
        simp only [Bool.and_eq_true, beq_iff_eq] at same
        exact inside (same.2 ▸ (compiled.closed.ends r (sub r mem)).1)
      rw [none _ fun r mem => (relationships_told_perm compiled).mem_iff.mp mem,
        none _ fun r mem => mem]
  rw [shown, tracks.relationships, ← shown, same]

/-! ### What is derived -/

theorem attributes_offered (i : Nat) : (d.attributesOf i).map Attribute.offered =
    ((g.draft.attributesOf i).map (·.renumber (Draft.matching g.draft d))).map
      Attribute.offered := by
  rw [List.map_map]
  refine map_eq_of_map_eq (fun b bHad a aHad same => ?_)
    (tracks.attributesOf_told compiled i)
  have bMem := ((Draft.mem_attributesOf tracks.wellFormed.placed).mp bHad).1
  have aMem := ((Draft.mem_attributesOf compiled.wellFormed.placed).mp aHad).1
  have label : a.label = b.label := (congrArg Attribute.label same.symm :)
  have place : (Draft.matching g.draft d).attributeAt a.index = b.index :=
    counterpart_eq compiled.wellFormed.labelledAttributes tracks.wellFormed.labelledAttributes
      aMem bMem label
  have name : b.name = a.name := (congrArg (·.name) same :)
  have type : b.type = a.type := (congrArg (·.type) same :)
  rw [Function.comp_apply, Attribute.offered, Attribute.offered, Attribute.renumber, place, name,
    type]

variable (legible : g.Legible)

include legible

theorem derivable_unlined (i : Nat) :
    (Derivation.derivableFrom d.relationships i).map Relationship.unlined =
      ((Derivation.derivableFrom g.relationships i).map Relationship.unlined).map
        (·.renumber (Draft.matching g.draft d)) := by
  rw [List.map_map]
  refine map_eq_of_map_eq (fun s sHad r rHad same => ?_)
    (tracks.derivableFrom_told compiled legible i)
  have sMem := List.mem_of_mem_filter sHad
  have rMem : r ∈ g.draft.relationships := List.mem_of_mem_filter rHad
  have label : r.label = s.label := (congrArg Relationship.label same.symm :)
  have place : (Draft.matching g.draft d).relationshipAt r.index = s.index :=
    counterpart_eq compiled.wellFormed.labelledRelationships
      tracks.wellFormed.labelledRelationships rMem sMem label
  have unplaced : { s with index := 0, line := 0 } = { r with index := 0, line := 0 } := same
  have unlined := congrArg (fun r : Relationship => { r with index := s.index }) unplaced
  rw [Function.comp_apply, Relationship.renumber, Relationship.unlined, Relationship.unlined]
  exact unlined.trans (by rw [place])

theorem acyclic : Derivation.cycle? d.entities.length d.relationships = none := by
  rw [tracks.length_eq, Derivation.cycle?_congr (tracks.derivable_unlined compiled legible)]
  exact compiled.acyclic

theorem derived_outlines {text : String} (compiles : compile text = .ok g) :
    d.settled.derived.map (·.outline) = g.derived.map (·.outline) := by
  have derived : (Derivation.derive g.entities.length g.draft.entityName d.attributesOf
      d.relationships).derived =
        g.draft.settled.derived.map (·.renumber (Draft.matching g.draft d)) :=
    Derivation.derived_congr (tracks.derivable_unlined compiled legible)
      (tracks.attributes_offered compiled) g.entities.length
  rw [derived_of_compile compiles, Draft.settled, tracks.entityName_eq, tracks.length_eq, derived,
    List.map_map]
  rfl

/-! ### What comes of rules and subtypes -/

/-- The rules of the draft come to the constraints of the graph. -/
theorem exists_checks {text : String} (compiles : compile text = .ok g) :
    ∃ constraints e, d.withShadowed.checkRules d.settled.derived d.rules = .ok (constraints, e) ∧
      (constraints.map Constraint.told).Perm (g.constraints.map Constraint.told) := by
  have outlines := tracks.derived_outlines compiled legible compiles
  have perm := constraints_told_perm compiled
  have names (i : Nat) : (d.attributesOf i).map (·.name) =
      (g.draft.attributesOf i).map (·.name) := by
    have told := congrArg (List.map (·.name)) (tracks.attributesOf_told compiled i)
    rwa [List.map_map, List.map_map] at told
  have related : ∀ r ∈ g.relationships, ∃ s ∈ d.relationships, s.told = r.told := by
    intro r mem
    have shown := List.mem_map_of_mem (f := Relationship.told)
      ((relationships_told_perm compiled).mem_iff.mpr mem)
    rw [← tracks.relationships] at shown
    exact List.mem_map.mp shown
  have backs : ∀ c ∈ g.told.filterMap Item.constraint?, d.Backs d.settled.derived c := by
    intro c mem
    exact (backs_of_compile compiles c (perm.mem_iff.mp mem)).congr (names c.entity) outlines related
  have wellFormed : d.withShadowed.WellFormed := { tracks.wellFormed with }
  obtain ⟨constraints, e, checks, same⟩ := Draft.checkRules_of_backs wellFormed
    (compiled.apart_derived.congr outlines) backs tracks.rules wellFormed.rules
  exact ⟨constraints, e, checks, same ▸ perm.map _⟩

/-- A document whose draft holds all that a graph tells has a graph that holds the same. -/
theorem exists_ofDocument {text : String} (compiles : compile text = .ok g) {read : Document}
    (drafted : Draft.ofDocument read = .ok d) :
    ∃ h, Graph.ofDocument read = .ok h ∧ h.Retells g := by
  obtain ⟨constraints, e, checks, sameConstraints⟩ :=
    tracks.exists_checks compiled legible compiles
  have wellFormed : d.withShadowed.WellFormed := { tracks.wellFormed with }
  have rulesChecked := (Draft.checkRules_spec wellFormed wellFormed.rules checks).1
  have checked := rulesChecked.trans (Draft.checkSubtypes_spec rulesChecked.wellFormed).1
  refine ⟨_, Graph.ofDocument_of_checks drafted (tracks.acyclic compiled legible) checks,
    ?_, ?_, tracks.derived_outlines compiled legible compiles, ?_, sameConstraints, ?_⟩
  · rw [checked.entities]
    exact tracks.outlines
  · have attributes := congrArg (List.map Attribute.told) checked.attributes
    rw [List.map_map, List.map_map] at attributes
    refine (List.Perm.of_eq attributes).trans ?_
    exact (List.Perm.of_eq tracks.attributes).trans ((attributes_told_perm compiled).map _)
  · rw [checked.relationships]
    exact (List.Perm.of_eq tracks.relationships).trans ((relationships_told_perm compiled).map _)
  · have proper (l : List SubtypeRule) : (l.filter fun r => r.subtype != r.base).map
        SubtypeRule.told = (l.map SubtypeRule.told).filter fun r => r.subtype != r.base := by
      rw [List.filter_map]
      rfl
    have perm := subtypes_told_perm compiled
    have kept : (g.told.filterMap Item.subtype?).filter (fun r => r.subtype != r.base) =
        g.told.filterMap Item.subtype? := by
      rw [List.filter_eq_self]
      intro rule mem
      simpa using subtype_ne_base_of_compile compiles rule (perm.mem_iff.mp mem)
    rw [Draft.checkSubtypes_eq, rulesChecked.subtypes, proper,
      show d.withShadowed.subtypes = d.subtypes from rfl, tracks.subtypes, ← proper, kept]
    exact perm.map _

end Whole

end Description.Tracks

/-! ## From the description to the draft -/

/-- Headers of new entities are entered one after the other. -/
theorem Draft.declare_all {heads : List Entity} (declared : ∀ e ∈ heads, e.declared = true)
    {declarations : List Declaration}
    (contents : declarations.map (·.content) = heads.map fun e => (e.name, e.description))
    {d : Draft} (nodup : ((d.names ++ heads.map (·.name)).map Name.key).Nodup) :
    ∃ e, declarations.foldlM declare d = .ok e ∧
      e.entities.map Entity.outline = (d.entities ++ heads).map Entity.outline := by
  induction heads generalizing declarations d with
  | nil =>
    rw [List.map_eq_nil_iff.mp contents]
    exact ⟨d, rfl, by rw [List.append_nil]⟩
  | cons head heads ih =>
    cases declarations with
    | nil => simp at contents
    | cons s declarations =>
      obtain ⟨first, rest⟩ := List.cons.inj contents
      obtain ⟨name, description⟩ := Prod.mk.inj first
      have missing : d.entity? s.name = none := by
        refine List.find?_eq_none.mpr fun e mem same => ?_
        rw [List.map_append, List.nodup_append] at nodup
        refine nodup.2.2 (Name.key e.name) (List.mem_map_of_mem (List.mem_map_of_mem mem))
          (Name.key head.name) (by simp) ?_
        rw [eq_of_beq same]
        exact congrArg Name.key name
      have entered : d.declare s = .ok (d.addEntity s.name s.description true s.line) := by
        rw [declare, missing]
      have names : (d.addEntity s.name s.description true s.line).names = d.names ++ [head.name] := by
        simp only [Draft.names, addEntity, List.map_append, List.map_singleton]
        rw [← name]
      obtain ⟨e, others, outlines⟩ := ih (fun e mem => declared e (List.mem_cons_of_mem _ mem)) rest
        (d := d.addEntity s.name s.description true s.line) (by
          rw [names, List.append_assoc]
          exact nodup)
      refine ⟨e, by rw [List.foldlM_cons, entered]; exact others, ?_⟩
      have look : (s.name, s.description, true) = head.outline := by
        rw [Entity.outline, declared head List.mem_cons_self, name, description]
      rw [outlines, List.map_append, List.map_append, List.map_cons, ← look]
      simp [addEntity, Entity.outline]

/-- The draft of a document that declares the declared entities of a graph tells nothing else, and
the facts of all that the graph tells complete it. -/
theorem Description.tracks_of_contents {doc read : Document} {g : Graph} (compiled : Compiled doc g)
    (stated : g.Stated) (legible : g.Legible) {text : String}
    (parsed : Document.parse text = .ok read)
    (declarations : (Draft.declarations read.statements).map (·.content) =
      (g.entities.filter (·.declared)).map fun e => (e.name, e.description))
    (facts : (Draft.facts read.statements).map (·.content) = g.told.map (·.fact g)) :
    ∃ d, Draft.ofDocument read = .ok d ∧ Tracks g g.entities.length g.told d := by
  have first : g.entities.take g.declaredNames.length = g.entities.filter (·.declared) := by
    have split := congrArg (List.take (g.entities.filter (·.declared)).length)
      (declared_append_undeclared compiled)
    rw [List.take_left] at split
    rw [split, Graph.declaredNames, List.length_map]
  obtain ⟨e, entered, outlines⟩ := Draft.declare_all
    (fun e mem => (List.mem_filter.mp mem).2) declarations (d := .empty read.diagnostics)
    (declaredKeys_nodup compiled)
  have start : Draft.AllDeclared [] (.empty read.diagnostics) :=
    ⟨[], rfl, rfl, Draft.counted_diagnostics_of_parse parsed⟩
  have wellFormed := (Draft.declared_all (Draft.wellFormed_empty _) start entered).1
  have tracks : Tracks g g.declaredNames.length [] e := by
    have rest := Draft.declared_rest entered
    refine ⟨wellFormed, Nat.le_refl _, ?_, ?_, ?_, ?_, ?_⟩
    · rw [outlines, first]
      rfl
    all_goals
      rw [rest]
      rfl
  have complete := tracks.attach_all compiled stated (show g.told = [] ++ g.told from rfl)
    legible.inOrder facts
  rw [legible.mentioned] at complete
  exact ⟨_, by rw [Draft.ofDocument, entered]; rfl, complete⟩

/-- A text that declares no entity has none. -/
theorem entities_eq_nil_of_compile {text : String} {g : Graph} (compiles : compile text = .ok g)
    (headless : g.declaredNames = []) : g.entities = [] := by
  obtain ⟨doc, read, built⟩ := parse_of_compile compiles
  obtain ⟨heads, stubs, split, declared, undeclared, names, -⟩ :=
    (Graph.compiled_of_parse read built).introduced_split
  have noHeads : heads = [] := by
    have none := List.map_eq_nil_iff.mp headless
    rw [split, List.filter_append, List.append_eq_nil_iff, List.filter_eq_self.mpr declared] at none
    exact none.1
  obtain ⟨d, e, constraints, drafted, -, checks, rfl⟩ := Graph.ofDocument_eq_ok built
  obtain ⟨-, rulesChecked, subtypesChecked⟩ := Draft.checked_of_checkRules read drafted checks
  have headless : doc.entityNames = [] := by
    rw [← names, noHeads]
    rfl
  have nothing := Draft.entities_eq_nil_of_parse read headless drafted
  rw [(rulesChecked.trans subtypesChecked).entities]
  exact nothing

/-! ## The result -/

/-- The description of a legible graph compiles, to a graph that states the same. -/
theorem compile_describe {text : String} {g : Graph} (compiles : compile text = .ok g)
    (legible : g.Legible) :
    ∃ h, compile g.describe = .ok h ∧ h.signature = g.signature := by
  obtain ⟨doc, -, compiled⟩ := compiled_of_compile compiles
  have stated := stated_of_compile compiles
  obtain ⟨read, parsed, -, declarations, facts⟩ :=
    parse_describe compiled legible (entities_eq_nil_of_compile compiles) stated.described
  obtain ⟨d, drafted, tracks⟩ := tracks_of_contents compiled stated legible parsed declarations
    facts
  obtain ⟨h, built, retells⟩ := tracks.exists_ofDocument compiled legible compiles drafted
  have again : compile g.describe = .ok h := by
    rw [compile, parsed]
    simp only [Except.mapError, bind, Except.bind]
    rw [built]
  exact ⟨h, again, retells.signature_eq compiles again⟩

/-- Orders of a customer, who has no header, and items, some of which are gifts. -/
def Description.orderText : String :=
  "**Order**: A purchase\n- It is identified by a Number, for example 'A-1'.\n" ++
    "- It has one **Customer**.\n- It has many Items.\n" ++
    "- It must have a Number like 'A-%'.\n- It must have at least 2 Items.\n" ++
    "**Item**\n- It is a Gift with an Occasion.\n"

/-- The orders are described in other words, which state the same. -/
theorem compile_describe_orders : ∃ g h, compile orderText = .ok g ∧ g.describe =
    "**Order**: A purchase\n- Order is identified by its Number, for example \"A-1\".\n" ++
      "- Order has a **Customer**.\n- Order has one or more **Items**.\n" ++
      "- Order must have a Number like 'A-%'.\n- Order must have at least 2 **Items**.\n\n" ++
      "**Item**\n- Item is a **Gift** with an Occasion.\n" ∧
    compile g.describe = .ok h ∧ h.signature = g.signature := by
  have passes : compilesTo orderText (fun g => decide (g.Legible ∧ g.describe =
      "**Order**: A purchase\n- Order is identified by its Number, for example \"A-1\".\n" ++
        "- Order has a **Customer**.\n- Order has one or more **Items**.\n" ++
        "- Order must have a Number like 'A-%'.\n- Order must have at least 2 **Items**.\n\n" ++
        "**Item**\n- Item is a **Gift** with an Occasion.\n")) = true := by
    decide +kernel
  obtain ⟨g, compiles, shown⟩ := of_compilesTo passes
  obtain ⟨legible, described⟩ := of_decide_eq_true shown
  obtain ⟨h, again, same⟩ := compile_describe compiles legible
  exact ⟨g, h, compiles, described, again, same⟩

/-- Not every description states the same: an article in front of a name is lost, and with it the
entity that the name spells. -/
theorem not_all_compile_describe : ¬∀ (text : String) (g : Graph), compile text = .ok g →
    ∃ h, compile g.describe = .ok h ∧ h.signature = g.signature := by
  intro always
  have passes : compilesTo "**The Order**\n- It has a Date.\n" (fun g =>
      compilesTo g.describe fun h =>
        decide (h.signature.entities ≠ g.signature.entities)) = true := by
    decide +kernel
  obtain ⟨g, compiles, described⟩ := of_compilesTo passes
  obtain ⟨h, again, differs⟩ := of_compilesTo described
  obtain ⟨h', again', same⟩ := always _ g compiles
  obtain rfl : h = h' := Except.ok.inj (again.symm.trans again')
  exact of_decide_eq_true differs (congrArg Signature.entities same)

end FactModel
