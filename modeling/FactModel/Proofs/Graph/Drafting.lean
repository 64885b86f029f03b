import FactModel.Graph.Build
import FactModel.Proofs.Graph.Arena
import FactModel.Proofs.Steps

/-!
# Drafts stay well formed

Every step by which a draft grows keeps its three lists fitting together and what is set aside
within range.  Each kind of step has one lemma that lists all it can do; that a draft stays well
formed is then shown once for each thing done.
-/

namespace FactModel

/-- Whether a finding is of a kind that is counted: an undeclared entity, of which each is reported
once, or a shadowed attribute. -/
def Finding.isCounted (finding : Finding) : Bool :=
  finding.code == .missingDeclaration || finding.code == .shadowedDerivedAttribute

namespace Draft

open Arena

/-- The names of the entities, by position. -/
def names (d : Draft) : List String :=
  d.entities.map (·.name)

@[simp]
theorem length_names (d : Draft) : d.names.length = d.entities.length := by
  rw [names, List.length_map]

theorem entityName_eq (d : Draft) (i : Nat) : d.entityName i = nameAt d.names i := by
  rw [names, nameAt_map, entityName]

/-- The lists of a draft fit together, and what it has set aside speaks of entities it has. -/
structure WellFormed (d : Draft) : Prop where
  placed : Placed d.entities d.attributes
  apart : Apart d.names d.attributes d.relationships
  told : Told d.names d.attributes d.relationships
  rules : ∀ rule ∈ d.rules, rule.entity < d.entities.length ∧
    ∀ target count, rule.demand = .minCount target count → target < d.entities.length
  subtypes : ∀ rule ∈ d.subtypes, rule.subtype < d.entities.length ∧
    rule.base < d.entities.length ∧
    ∀ target count, rule.predicate = some (.related target count) → target < d.entities.length

theorem wellFormed_empty (diagnostics : List Diagnostic) : (empty diagnostics).WellFormed where
  placed := by
    constructor <;> simp [empty, Indexed]
  apart := by
    constructor <;> simp [empty, names, Indexed]
  told := by
    constructor <;> simp [empty]
  rules := by simp [empty]
  subtypes := by simp [empty]

/-! ## Look-ups -/

/-- The attributes of an entity are those that it owns. -/
theorem attributesOf_eq_filter {d : Draft} (placed : Placed d.entities d.attributes) (i : Nat) :
    d.attributesOf i = d.attributes.filter (·.entity == i) := by
  unfold attributesOf
  split
  · next e found =>
    rw [placed.filterMap_attributeIds (List.mem_of_getElem? found),
      placed.entityIndex i e found]
  · next missing =>
    symm
    rw [List.filter_eq_nil_iff]
    intro a mem
    have := placed.ownerBound a mem
    have := List.getElem?_eq_none_iff.mp missing
    simp only [beq_iff_eq]
    omega

theorem mem_attributesOf {d : Draft} (placed : Placed d.entities d.attributes) {i : Nat}
    {a : Attribute} : a ∈ d.attributesOf i ↔ a ∈ d.attributes ∧ a.entity = i := by
  simp [attributesOf_eq_filter placed]

/-- A name that finds no attribute is the key of none. -/
theorem key_ne_of_attribute?_eq_none {d : Draft} (placed : Placed d.entities d.attributes)
    {entity : Nat} {name : String} (missing : d.attribute? entity name = none) {a : Attribute}
    (mem : a ∈ d.attributes) (owner : a.entity = entity) : Name.key a.name ≠ Name.key name := by
  have differs := List.find?_eq_none.mp missing a ((mem_attributesOf placed).mpr ⟨mem, owner⟩)
  simpa using differs

theorem of_attribute?_eq_some {d : Draft} (placed : Placed d.entities d.attributes)
    {entity : Nat} {name : String} {a : Attribute} (found : d.attribute? entity name = some a) :
    a ∈ d.attributes ∧ a.entity = entity ∧ Name.key a.name = Name.key name := by
  have mem := (mem_attributesOf placed).mp (List.mem_of_find?_eq_some found)
  have same := List.find?_some found
  exact ⟨mem.1, mem.2, by simpa using same⟩

theorem of_entity?_eq_some {d : Draft} (placed : Placed d.entities d.attributes) {name : String}
    {e : Entity} (found : d.entity? name = some e) :
    d.entities[e.index]? = some e ∧ Name.key e.name = Name.key name := by
  have same := List.find?_some found
  exact ⟨placed.entityIndex.getElem? (List.mem_of_find?_eq_some found), by simpa using same⟩

theorem key_not_mem_of_entity?_eq_none {d : Draft} {name : String}
    (missing : d.entity? name = none) : Name.key name ∉ d.names.map Name.key := by
  rw [names, List.map_map, List.mem_map]
  rintro ⟨e, mem, same⟩
  have differs := List.find?_eq_none.mp missing e mem
  simp only [beq_iff_eq] at differs
  exact differs same

/-! ## Notes -/

/-- A draft with further diagnostics, none of them counted. -/
def Noted (d e : Draft) : Prop :=
  ∃ notes : List Diagnostic, e = { d with diagnostics := d.diagnostics ++ notes } ∧
    ∀ note ∈ notes, note.finding.isCounted = false

theorem Noted.refl (d : Draft) : Noted d d :=
  ⟨[], by simp, by simp⟩

theorem Noted.warn {d e : Draft} (noted : Noted d e) (line : Nat) {finding : Finding}
    (other : finding.isCounted = false) : Noted d (e.warn line finding) := by
  obtain ⟨notes, rfl, others⟩ := noted
  refine ⟨notes ++ [{ finding := finding, line := line }], by simp [Draft.warn], ?_⟩
  intro note mem
  rcases List.mem_append.mp mem with old | new
  · exact others note old
  · obtain rfl := List.mem_singleton.mp new
    exact other

theorem Noted.wellFormed {d e : Draft} (noted : Noted d e) (wellFormed : d.WellFormed) :
    e.WellFormed := by
  obtain ⟨notes, rfl, -⟩ := noted
  exact ⟨wellFormed.placed, wellFormed.apart, wellFormed.told, wellFormed.rules,
    wellFormed.subtypes⟩

theorem Noted.attributes {d n : Draft} (noted : Noted d n) : n.attributes = d.attributes := by
  obtain ⟨notes, rfl, -⟩ := noted
  rfl

theorem Noted.attributesOf {d n : Draft} (noted : Noted d n) (entity : Nat) :
    n.attributesOf entity = d.attributesOf entity := by
  obtain ⟨notes, rfl, -⟩ := noted
  rfl

theorem Noted.attribute? {d n : Draft} (noted : Noted d n) (entity : Nat) (name : String) :
    n.attribute? entity name = d.attribute? entity name := by
  rw [Draft.attribute?, noted.attributesOf, Draft.attribute?]

theorem WellFormed.warn {d : Draft} (wellFormed : d.WellFormed) (line : Nat) (finding : Finding) :
    (d.warn line finding).WellFormed :=
  ⟨wellFormed.placed, wellFormed.apart, wellFormed.told, wellFormed.rules, wellFormed.subtypes⟩

/-! ## Introducing entities -/

/-- How the entities were introduced: under which name, whether by a header, on which line. -/
def headings (d : Draft) : List (String × Bool × Nat) :=
  d.entities.map fun e => (e.name, e.declared, e.line)

/-- The counted ones among diagnostics. -/
def counted (diagnostics : List Diagnostic) : List Diagnostic :=
  diagnostics.filter (·.finding.isCounted)

theorem counted_append (first second : List Diagnostic) :
    counted (first ++ second) = counted first ++ counted second :=
  List.filter_append ..

/-- The declared entities come first, under the given names; the others follow in the order in
which they were reported to be undeclared, each of them once. -/
def Introduced (declared : List String) (d : Draft) : Prop :=
  ∃ heads stubs : List (String × Nat),
    d.headings = heads.map (fun h => (h.1, true, h.2)) ++ stubs.map (fun h => (h.1, false, h.2)) ∧
    heads.map (·.1) = declared ∧
    counted d.diagnostics =
      stubs.map fun h => { finding := .undeclared h.1, line := h.2 }

theorem Introduced.congr {declared : List String} {d e : Draft} (introduced : Introduced declared d)
    (headings : e.headings = d.headings)
    (diagnostics : counted e.diagnostics = counted d.diagnostics) :
    Introduced declared e := by
  obtain ⟨heads, stubs, order, names, reports⟩ := introduced
  exact ⟨heads, stubs, headings.trans order, names, diagnostics.trans reports⟩

theorem Noted.introduced {declared : List String} {d e : Draft} (noted : Noted d e)
    (introduced : Introduced declared d) : Introduced declared e := by
  obtain ⟨notes, rfl, others⟩ := noted
  refine introduced.congr (by rfl) ?_
  have none : counted notes = [] := by
    rw [counted, List.filter_eq_nil_iff]
    intro note mem
    simpa using others note mem
  rw [counted_append, none, List.append_nil]

theorem Introduced.warn {declared : List String} {d : Draft} (introduced : Introduced declared d)
    (line : Nat) {finding : Finding} (other : finding.isCounted = false) :
    Introduced declared (d.warn line finding) :=
  ((Noted.refl d).warn line other).introduced introduced

theorem WellFormed.addEntity {d : Draft} (wellFormed : d.WellFormed) {name : String}
    (fresh : Name.key name ∉ d.names.map Name.key) (description : String) (declared : Bool)
    (line : Nat) : (d.addEntity name description declared line).WellFormed := by
  have names_eq : (d.addEntity name description declared line).names = d.names ++ [name] := by
    simp [Draft.addEntity, names]
  have length_eq : (d.addEntity name description declared line).entities.length =
      d.entities.length + 1 := by
    simp [Draft.addEntity]
  constructor
  · exact wellFormed.placed.addEntity rfl rfl
  · rw [names_eq]
    exact wellFormed.apart.addName fresh
  · rw [names_eq]
    exact wellFormed.told.addName (fun r mem => (wellFormed.apart.ends r mem).2) name
  · intro rule mem
    obtain ⟨entity, target⟩ := wellFormed.rules rule mem
    rw [length_eq]
    exact ⟨by omega, fun t count demand => by have := target t count demand; omega⟩
  · intro rule mem
    obtain ⟨subtype, base, target⟩ := wellFormed.subtypes rule mem
    rw [length_eq]
    exact ⟨by omega, by omega, fun t count predicate => by
      have := target t count predicate
      omega⟩

/-- What resolving a name comes to: the entity is there, or it is added and reported. -/
theorem resolve_cases (d : Draft) (line : Nat) (name : String) :
    (∃ e, d.entity? name = some e ∧ d.resolve line name = (e.index, d)) ∨
      (d.entity? name = none ∧ d.resolve line name =
        (d.entities.length, (d.addEntity name "" false line).warn line (.undeclared name))) := by
  unfold resolve
  cases found : d.entity? name with
  | none => exact .inr ⟨rfl, rfl⟩
  | some e => exact .inl ⟨e, rfl, rfl⟩

theorem WellFormed.resolve {d : Draft} (wellFormed : d.WellFormed) (line : Nat) (name : String) :
    (d.resolve line name).2.WellFormed ∧
      (d.resolve line name).1 < (d.resolve line name).2.entities.length ∧
      d.entities.length ≤ (d.resolve line name).2.entities.length := by
  rcases resolve_cases d line name with ⟨e, found, resolved⟩ | ⟨missing, resolved⟩
  · have atPlace := (of_entity?_eq_some wellFormed.placed found).1
    rw [resolved]
    exact ⟨wellFormed, (List.getElem?_eq_some_iff.mp atPlace).1, Nat.le_refl _⟩
  · rw [resolved]
    have added := wellFormed.addEntity (key_not_mem_of_entity?_eq_none missing) "" false line
    refine ⟨⟨added.placed, added.apart, added.told, added.rules, added.subtypes⟩, ?_, ?_⟩ <;>
      simp [Draft.addEntity, Draft.warn]

theorem Introduced.resolve {declared : List String} {d : Draft}
    (introduced : Introduced declared d) (line : Nat) (name : String) :
    Introduced declared (d.resolve line name).2 := by
  rcases resolve_cases d line name with ⟨e, found, resolved⟩ | ⟨missing, resolved⟩
  · rw [resolved]
    exact introduced
  · rw [resolved]
    obtain ⟨heads, stubs, order, names, reports⟩ := introduced
    refine ⟨heads, stubs ++ [(name, line)], ?_, names, ?_⟩
    · simp only [headings, List.map_append] at order ⊢
      simp [Draft.addEntity, Draft.warn, order]
    · simp only [Draft.warn, Draft.addEntity, counted_append, reports, List.map_append]
      rfl

end Draft

end FactModel
