import FactModel.Proofs.Graph.Checking

/-!
# What a draft holds of one entity

The attributes, relationships, rules and subtypes of an entity, regardless of where they stand in the
lists of a draft, are its portion of the draft.  The ways in which a draft grows change the portion of
one entity each.
-/

namespace FactModel

open Arena

/-- An attribute wherever it stands. -/
def Attribute.unplaced (a : Attribute) : Attribute :=
  { a with index := 0 }

/-- A relationship wherever it stands. -/
def Relationship.unplaced (r : Relationship) : Relationship :=
  { r with index := 0 }

/-- An entity without its attributes. -/
def Entity.unlisted (e : Entity) : Entity :=
  { e with attributeIds := [] }

/-- What a draft holds of an entity. -/
structure Portion where
  attributes : List Attribute
  relationships : List Relationship
  rules : List PendingRule
  subtypes : List SubtypeRule
  deriving DecidableEq, Repr

/-- Attributes that are the same but for their places. -/
theorem Attribute.eq_of_unplaced {a b : Attribute} (same : a.unplaced = b.unplaced) :
    b = { a with index := b.index } := by
  obtain ⟨i, name, entity, type, typeDeclared, required, identifying, sample, references, line⟩ := a
  obtain ⟨j, name', entity', type', typeDeclared', required', identifying', sample', references',
    line'⟩ := b
  simp only [Attribute.unplaced, Attribute.mk.injEq, true_and] at same
  obtain ⟨rfl, rfl, rfl, rfl, rfl, rfl, rfl, rfl, rfl⟩ := same
  rfl

/-- Relationships that are the same but for their places. -/
theorem Relationship.eq_of_unplaced {r s : Relationship} (same : r.unplaced = s.unplaced) :
    s = { r with index := s.index } := by
  obtain ⟨i, source, target, cardinality, line⟩ := r
  obtain ⟨j, source', target', cardinality', line'⟩ := s
  simp only [Relationship.unplaced, Relationship.mk.injEq, true_and] at same
  obtain ⟨rfl, rfl, rfl, rfl⟩ := same
  rfl

namespace Draft

/-- The entities without their attributes. -/
def heads (d : Draft) : List Entity :=
  d.entities.map Entity.unlisted

/-- What a draft holds of the entity at a position. -/
def portion (d : Draft) (i : Nat) : Portion where
  attributes := (d.attributes.filter (·.entity == i)).map Attribute.unplaced
  relationships := (d.relationships.filter (·.source == i)).map Relationship.unplaced
  rules := d.rules.filter (·.entity == i)
  subtypes := d.subtypes.filter (·.subtype == i)

/-- A draft with further diagnostics. -/
def noting (d : Draft) (notes : List Diagnostic) : Draft :=
  { d with diagnostics := d.diagnostics ++ notes }

/-! ## Heads -/

section Heads

variable {d e : Draft}

theorem length_heads : d.heads.length = d.entities.length := by
  rw [heads, List.length_map]

theorem names_eq_heads : d.names = d.heads.map (·.name) := by
  rw [names, heads, List.map_map]
  rfl

theorem entityName_congr (same : d.heads = e.heads) : d.entityName = e.entityName := by
  funext i
  rw [entityName_eq, entityName_eq, names_eq_heads, names_eq_heads, same]

/-- The position of the entity that a name spells. -/
def position (d : Draft) (name : String) : Nat :=
  ((d.entity? name).map (·.index)).getD 0

theorem map_index_entity? (name : String) : (d.entity? name).map (·.index) =
    (d.heads.find? (Name.key ·.name == Name.key name)).map (·.index) := by
  rw [entity?, heads, List.find?_map, Option.map_map]
  rfl

theorem position_congr (same : d.heads = e.heads) (name : String) :
    d.position name = e.position name := by
  rw [position, position, map_index_entity?, map_index_entity?, same]

/-- A name spells an entity of the draft. -/
def Knows (d : Draft) (name : String) : Prop :=
  ∃ x ∈ d.heads, Name.key x.name = Name.key name

theorem Knows.congr {name : String} (known : d.Knows name) (same : d.heads = e.heads) :
    e.Knows name := by
  rw [Knows, ← same]
  exact known

theorem knows_iff {name : String} : d.Knows name ↔ Name.key name ∈ d.names.map Name.key := by
  rw [Knows, names_eq_heads, List.map_map, List.mem_map]
  rfl

/-- A name that spells an entity is resolved without a change. -/
theorem resolve_eq {name : String} (known : d.Knows name) (line : Nat) :
    d.resolve line name = (d.position name, d) := by
  rcases resolve_cases d line name with ⟨x, found, resolved⟩ | ⟨missing, -⟩
  · rw [resolved, position, found]
    rfl
  · exact absurd (knows_iff.mp known) (key_not_mem_of_entity?_eq_none missing)

/-- The entity that a name spells stands at its position. -/
theorem Knows.exists_entity {name : String} (known : d.Knows name) :
    ∃ x ∈ d.entities, Name.key x.name = Name.key name ∧ x.index = d.position name := by
  have found : (d.entity? name).isSome = true := by
    obtain ⟨x, mem, same⟩ := known
    obtain ⟨y, yMem, rfl⟩ := List.mem_map.mp mem
    rw [entity?, List.find?_isSome]
    exact ⟨y, yMem, by simpa [Entity.unlisted] using same⟩
  obtain ⟨x, isEntity⟩ := Option.isSome_iff_exists.mp found
  refine ⟨x, List.mem_of_find?_eq_some isEntity, ?_, ?_⟩
  · simpa using List.find?_some isEntity
  · rw [position, isEntity]
    rfl

/-- Known names have one position when they spell the same entity. -/
theorem Knows.position_eq_iff {first second : String} (firstKnown : d.Knows first)
    (secondKnown : d.Knows second) (wellFormed : d.WellFormed) :
    d.position first = d.position second ↔ Name.key first = Name.key second := by
  constructor
  · obtain ⟨x, xMem, xKey, xIndex⟩ := firstKnown.exists_entity
    obtain ⟨y, yMem, yKey, yIndex⟩ := secondKnown.exists_entity
    intro same
    obtain rfl := wellFormed.placed.entityIndex.eq_of_index xMem yMem
      (xIndex.trans (same.trans yIndex.symm))
    exact xKey.symm.trans yKey
  · intro same
    rw [position, position, entity?, entity?, same]

end Heads

/-! ## Look-ups -/

section LookUps

variable {d e : Draft} {i : Nat}

theorem map_attributesOf (placed : Placed d.entities d.attributes) :
    (d.attributesOf i).map Attribute.unplaced = (d.portion i).attributes := by
  rw [attributesOf_eq_filter placed]
  rfl

/-- A look-up that does not mind the place of an attribute. -/
theorem map_find?_attributesOf (placed : Placed d.entities d.attributes) {p : Attribute → Bool}
    (placeless : ∀ a, p a.unplaced = p a) :
    ((d.attributesOf i).find? p).map Attribute.unplaced = (d.portion i).attributes.find? p := by
  rw [← map_attributesOf placed, List.find?_map]
  congr 2
  funext a
  exact (placeless a).symm

end LookUps

/-! ## Changes -/

section Changes

variable {d : Draft}

theorem portion_addAttribute (a : Attribute) (i : Nat) : (d.addAttribute a).portion i =
    if a.entity = i then
      { d.portion i with attributes := (d.portion i).attributes ++ [a.unplaced] }
    else d.portion i := by
  by_cases owner : a.entity = i
  · simp [portion, addAttribute, owner, List.filter_append, Attribute.unplaced]
  · simp [portion, addAttribute, owner, List.filter_append]

theorem heads_addAttribute (a : Attribute) : (d.addAttribute a).heads = d.heads := by
  apply map_modify_of_eq
  intro e
  rfl

/-- An attribute is replaced by one of the same name in the portion of its owner. -/
theorem portion_setAttribute (wellFormed : d.WellFormed) {old : Attribute}
    (mem : old ∈ d.attributes) (new : Attribute) (index : new.index = old.index)
    (owner : new.entity = old.entity) (i : Nat) : (d.setAttribute new).portion i =
      if old.entity = i then
        { d.portion i with
          attributes := (d.portion i).attributes.map fun a =>
            if Name.key a.name = Name.key old.name then new.unplaced else a }
      else d.portion i := by
  have found := wellFormed.placed.attributeIndex.getElem? mem
  have replaced : d.attributes.set new.index new =
      d.attributes.map fun a => if a.index = old.index then new else a := by
    apply List.ext_getElem?
    intro j
    rw [List.getElem?_set, List.getElem?_map, index]
    split
    · next same =>
      rw [if_pos (by simpa [← same] using (List.getElem?_eq_some_iff.mp found).1), ← same, found]
      simp
    · next differs =>
      cases other : d.attributes[j]? with
      | none => rfl
      | some a =>
        have place := wellFormed.placed.attributeIndex j a other
        simp [place, Ne.symm differs]
  have owned : (d.attributes.set new.index new).filter (·.entity == i) =
      (d.attributes.filter (·.entity == i)).map fun a => if a.index = old.index then new else a := by
    rw [replaced, List.filter_map]
    congr 1
    refine List.filter_congr fun a aMem => ?_
    by_cases same : a.index = old.index
    · obtain rfl := wellFormed.placed.attributeIndex.eq_of_index aMem mem same
      simp [owner]
    · simp [same]
  rw [portion, setAttribute]
  simp only [owned]
  split
  · next isOwner =>
    rw [portion]
    simp only [List.map_map, Portion.mk.injEq, and_true]
    refine List.map_congr_left fun a aMem => ?_
    obtain ⟨aMem, aOwner⟩ := List.mem_filter.mp aMem
    have sameName : a.index = old.index ↔ Name.key a.name = Name.key old.name := by
      constructor
      · intro same
        rw [wellFormed.placed.attributeIndex.eq_of_index aMem mem same]
      · exact wellFormed.apart.attributeKeys a aMem old mem ((eq_of_beq aOwner).trans isOwner.symm)
    by_cases same : a.index = old.index
    · simp [same, sameName.mp same, Attribute.unplaced]
    · simp [same, mt sameName.mpr same, Attribute.unplaced]
  · next other =>
    rw [portion]
    simp only [List.map_map, Portion.mk.injEq, and_true]
    refine List.map_congr_left fun a aMem => ?_
    obtain ⟨aMem, aOwner⟩ := List.mem_filter.mp aMem
    have differs : a.index ≠ old.index := by
      intro same
      rw [wellFormed.placed.attributeIndex.eq_of_index aMem mem same] at aOwner
      exact other (eq_of_beq aOwner)
    simp [differs]

theorem portion_addRelationship (r : Relationship) (i : Nat) :
    Draft.portion { d with relationships := d.relationships ++ [r] } i =
      if r.source = i then
        { d.portion i with relationships := (d.portion i).relationships ++ [r.unplaced] }
      else d.portion i := by
  by_cases source : r.source = i <;> simp [portion, source, List.filter_append]

theorem portion_setAside (line entity : Nat) (demand : PendingDemand) (i : Nat) :
    (d.setAside line entity demand).portion i =
      if entity = i then
        { d.portion i with rules := (d.portion i).rules ++ [{ entity, demand, line }] }
      else d.portion i := by
  by_cases owner : entity = i <;> simp [portion, setAside, owner, List.filter_append]

theorem portion_addSubtype (rule : SubtypeRule) (i : Nat) :
    Draft.portion { d with subtypes := d.subtypes ++ [rule] } i =
      if rule.subtype = i then
        { d.portion i with subtypes := (d.portion i).subtypes ++ [rule] }
      else d.portion i := by
  by_cases owner : rule.subtype = i <;> simp [portion, owner, List.filter_append]

end Changes

end Draft

end FactModel
