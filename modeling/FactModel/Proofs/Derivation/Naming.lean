import FactModel.Proofs.Graph.Soundness

/-!
# Derived attributes are sound and told apart by name

A derived attribute stands for an explicit one at the end of a chain of relationships.  Its name
tells the chain: the names of the entities on the way, followed by the name of the attribute.  What
an entity has, explicit and derived, is told apart by name.
-/

namespace FactModel

namespace Graph

/-- The name of an attribute at the end of a path: the names of the entities on the way, followed by
its own. -/
def nameAlong (g : Graph) (path : List Nat) (name : String) : String :=
  " ".intercalate (path.map g.targetName ++ [name])

/-- One step further back the name of the first target comes in front. -/
theorem nameAlong_cons (g : Graph) (i : Nat) (path : List Nat) (name : String) :
    g.nameAlong (i :: path) name = s!"{g.targetName i} {g.nameAlong path name}" := by
  rw [nameAlong, List.map_cons, List.cons_append, String.intercalate_cons_of_ne_nil (by simp)]
  rfl

@[simp]
theorem nameAlong_nil (g : Graph) (name : String) : g.nameAlong [] name = name :=
  String.intercalate_singleton

/-- A derived attribute stands for an explicit one at the end of a chain from its entity: it has the
type of that attribute, and the name that tells the chain. -/
structure StandsFor (g : Graph) (d : DerivedAttribute) (last : Nat) (a : Attribute) : Prop where
  nonempty : d.path ≠ []
  chain : g.Chain d.entity d.path last
  source : g.attributes[d.source]? = some a
  listed : a ∈ g.attributesOf last
  owner : a.entity = last
  plain : a.type ≠ .reference
  name : d.name = g.nameAlong d.path a.name
  type : d.type = a.type

/-- Every derived attribute stands for an explicit one, and all attributes of an entity are told
apart by name. -/
structure SoundlyDerived (g : Graph) : Prop where
  stands : ∀ d ∈ g.derived, ∃ last a, g.StandsFor d last a
  apart : ∀ entity, ((g.attributesOf entity).map (Name.key ·.name) ++
    (g.derivedOf entity).map (Name.key ·.name)).Nodup

end Graph

namespace Compiled

variable {doc : Document} {g : Graph} (compiled : Compiled doc g)

include compiled

theorem targetName_index {r : Relationship} (mem : r ∈ g.relationships) :
    g.targetName r.index = g.entityName r.target := by
  rw [Graph.targetName, compiled.relationship_getElem? mem]
  rfl

theorem attribute_getElem? {entity : Nat} {a : Attribute} (had : a ∈ g.attributesOf entity) :
    g.attributes[a.index]? = some a :=
  compiled.wellFormed.placed.attributeIndex.getElem? (compiled.mem_attributesOf.mp had).1

/-- Whatever an entity has it was offered. -/
theorem offered_of_mem_derived {d : DerivedAttribute} (mem : d ∈ g.derived) :
    d ∈ g.offeredTo d.entity :=
  (compiled.derivedOf_sublist d.entity).subset (List.mem_filter.mpr ⟨mem, beq_self_eq_true _⟩)

theorem name_of_mem_derived {d : DerivedAttribute} (mem : d ∈ g.derived) {a : Attribute}
    (source : g.attributes[d.source]? = some a) : d.name = g.nameAlong d.path a.name := by
  -- The offer across the first relationship puts the name of its target in front.
  induction path : d.path generalizing d with
  | nil => exact absurd path (compiled.chain_of_mem_derived mem).1
  | cons i rest ih =>
    obtain ⟨r, rMem, -, -, -, ⟨b, bHad, -, begins, ofB, -, name⟩ |
      ⟨e, eHad, begins, ofE, -, name⟩⟩ := Graph.offeredTo_cases (compiled.offered_of_mem_derived mem)
    · obtain ⟨rfl, rfl⟩ := List.cons.inj (path.symm.trans begins)
      rw [ofB, compiled.attribute_getElem? bHad] at source
      rw [name, g.nameAlong_cons, compiled.targetName_index rMem, g.nameAlong_nil,
        Option.some.inj source]
    · obtain ⟨rfl, rfl⟩ := List.cons.inj (path.symm.trans begins)
      rw [name, g.nameAlong_cons, compiled.targetName_index rMem,
        ih (List.mem_of_mem_filter eHad) (ofE ▸ source) rfl]

/-- A derived attribute stands for an explicit one. -/
theorem exists_standsFor {d : DerivedAttribute} (mem : d ∈ g.derived) :
    ∃ last a, g.StandsFor d last a := by
  obtain ⟨nonempty, last, chain, a, had, plain, index, type⟩ := compiled.chain_of_mem_derived mem
  have source : g.attributes[d.source]? = some a := index ▸ compiled.attribute_getElem? had
  exact ⟨last, a, nonempty, chain, source, had, (compiled.mem_attributesOf.mp had).2, plain,
    compiled.name_of_mem_derived mem source, type.symm⟩

theorem attributeKeys_nodup (entity : Nat) :
    ((g.attributesOf entity).map (Name.key ·.name)).Nodup := by
  have nodup : (g.attributesOf entity).Nodup := by
    rw [compiled.attributesOf_eq]
    exact compiled.wellFormed.placed.attributeIndex.nodup.filter _
  refine List.Nodup.map_on (fun a aHad b bHad same => ?_) nodup
  obtain ⟨aMem, aOwner⟩ := compiled.mem_attributesOf.mp aHad
  obtain ⟨bMem, bOwner⟩ := compiled.mem_attributesOf.mp bHad
  exact compiled.eq_of_key aMem bMem (aOwner.trans bOwner.symm) same

/-- Only names that no explicit attribute has are taken over, and each of them once. -/
theorem keys_nodup (entity : Nat) : ((g.attributesOf entity).map (Name.key ·.name) ++
    (g.derivedOf entity).map (Name.key ·.name)).Nodup := by
  obtain ⟨nodup, free⟩ := Derivation.selectFree_keys
    ((g.attributesOf entity).map (Name.key ·.name)) (g.offeredTo entity)
  rw [compiled.derivedOf_eq]
  refine List.nodup_append.mpr ⟨compiled.attributeKeys_nodup entity, nodup, ?_⟩
  rintro key taken _ selected rfl
  obtain ⟨d, dMem, rfl⟩ := List.mem_map.mp selected
  exact free d dMem taken

/-- No two derived attributes of an entity have the same name. -/
theorem derivedNames_nodup (entity : Nat) : ((g.derivedOf entity).map (·.name)).Nodup := by
  have keys := (List.nodup_append.mp (compiled.keys_nodup entity)).2.1
  exact List.Nodup.of_map Name.key (by rwa [List.map_map])

end Compiled

/-- In a compiled graph derived attributes stand for explicit ones and are told apart by name. -/
theorem soundlyDerived_of_compile {text : String} {g : Graph} (compiles : compile text = .ok g) :
    g.SoundlyDerived := by
  obtain ⟨doc, -, compiled⟩ := compiled_of_compile compiles
  exact ⟨fun d mem => compiled.exists_standsFor mem, compiled.keys_nodup⟩

/-- Across two relationships the names of both targets come in front. -/
theorem soundlyDerived_along_two : ∃ g,
    compile "**A**\n- A has a **B**.\n**B**\n- B has a **C**.\n**C**\n- C has a d.\n" = .ok g ∧
      (g.derivedOf 0).map (·.name) = ["B C d"] ∧ g.SoundlyDerived := by
  have passes : compilesTo
      "**A**\n- A has a **B**.\n**B**\n- B has a **C**.\n**C**\n- C has a d.\n"
      (fun g => decide ((g.derivedOf 0).map (·.name) = ["B C d"])) = true := by
    decide +kernel
  obtain ⟨g, compiles, shown⟩ := of_compilesTo passes
  exact ⟨g, compiles, of_decide_eq_true shown, soundlyDerived_of_compile compiles⟩

end FactModel
