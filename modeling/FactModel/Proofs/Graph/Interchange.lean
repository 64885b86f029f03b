import FactModel.Proofs.Graph.Rechecking
import FactModel.Proofs.Graph.Renumbering

/-!
# The graph does not depend on how facts are interleaved

Two documents with the same declarations and, about each entity, the same facts in the same order have
the same graph up to the numbers of its attributes and relationships.  Nothing else depends on the
order in which facts about different entities are stated, but for the choice between relationships
that link the same two entities.
-/

namespace FactModel

/-! ## Documents -/

/-- All entities that the facts of a document mention are declared. -/
def Document.MentionsDeclared (p : Document) : Prop :=
  ∀ f ∈ Draft.facts p.statements, ∀ name ∈ f.mentions,
    ∃ s ∈ Draft.declarations p.statements, Name.key s.name = Name.key name

instance (p : Document) : Decidable p.MentionsDeclared :=
  inferInstanceAs (Decidable (∀ f ∈ Draft.facts p.statements, ∀ name ∈ f.mentions,
    ∃ s ∈ Draft.declarations p.statements, Name.key s.name = Name.key name))

/-- Two documents differ in the order of their statements alone, where the declarations, and the facts
about each entity, keep their order. -/
structure Document.Reordered (p q : Document) : Prop where
  statements : p.statements.Perm q.statements
  declarations : Draft.declarations p.statements = Draft.declarations q.statements
  subjects : ∀ f ∈ Draft.facts p.statements,
    (Draft.facts p.statements).filter (Name.key ·.entity == Name.key f.entity) =
      (Draft.facts q.statements).filter (Name.key ·.entity == Name.key f.entity)
  unparsed : p.unparsed = q.unparsed
  diagnostics : p.diagnostics = q.diagnostics

/-- The facts about any name keep their order. -/
theorem Document.Reordered.filter_facts {p q : Document} (reordered : p.Reordered q)
    (name : String) :
    (Draft.facts p.statements).filter (Name.key ·.entity == Name.key name) =
      (Draft.facts q.statements).filter (Name.key ·.entity == Name.key name) := by
  by_cases about : ∃ f ∈ Draft.facts p.statements, Name.key f.entity = Name.key name
  · obtain ⟨f, mem, same⟩ := about
    rw [← same]
    exact reordered.subjects f mem
  · have facts : (Draft.facts p.statements).Perm (Draft.facts q.statements) :=
      reordered.statements.filterMap _
    have none (f : Fact) (mem : f ∈ Draft.facts p.statements) :
        ¬(Name.key f.entity == Name.key name) = true := by
      rw [beq_iff_eq]
      exact fun same => about ⟨f, mem, same⟩
    rw [List.filter_eq_nil_iff.mpr none, List.filter_eq_nil_iff.mpr fun f mem =>
      none f (facts.mem_iff.mpr mem)]

/-! ## Graphs -/

/-- Constraints on the same entity that demand the same.  Counts may be backed by different
relationships that link the same two entities. -/
inductive Constraint.Corresponds (g h : Graph) : Constraint → Constraint → Prop where
  | onAttribute (entity : Nat) (rule : AttributeRule) (attr : String) (derived : Bool) (line : Nat) :
    Corresponds g h ⟨entity, .onAttribute rule attr derived, line⟩
      ⟨entity, .onAttribute rule attr derived, line⟩
  | minCount (entity target count line : Nat) {r s : Relationship} (here : r ∈ g.relationships)
    (links : Draft.links r entity target = true) (there : s ∈ h.relationships)
    (alsoLinks : Draft.links s entity target = true) :
    Corresponds g h ⟨entity, .minCount target count r.index, line⟩
      ⟨entity, .minCount target count s.index, line⟩

/-- Two graphs are the same up to the numbers of attributes and relationships, but for the
relationships that back counts. -/
structure Graph.Agrees (n : Renumbering) (g h : Graph) : Prop where
  attributes : Set.BijOn n.attributeAt (Set.Iio g.attributes.length) (Set.Iio h.attributes.length)
  relationships :
    Set.BijOn n.relationshipAt (Set.Iio g.relationships.length) (Set.Iio h.relationships.length)
  entities : h.entities = g.entities.map (·.renumber n)
  explicit : ∀ i, h.attributesOf i = (g.attributesOf i).map (·.renumber n)
  outgoing : ∀ i, h.outgoing i = (g.outgoing i).map (·.renumber n)
  derived : ∀ i, h.derivedOf i = (g.derivedOf i).map (·.renumber n)
  constraints : ∀ i,
    List.Forall₂ (Constraint.Corresponds g h) (g.constraintsOf i) (h.constraintsOf i)
  subtypeRules : ∀ i, h.subtypeRulesOf i = g.subtypeRulesOf i
  warnings : h.warnings.Perm g.warnings
  unparsed : h.unparsed = g.unparsed

namespace Draft

/-! ## Drafts -/

/-- A declared name is known from then on. -/
theorem knows_of_declare {d e : Draft} (wellFormed : d.WellFormed) {s : Declaration}
    (declared : d.declare s = .ok e) : e.Knows s.name ∧ ∀ name, d.Knows name → e.Knows name := by
  simp only [knows_iff]
  rcases declare_cases declared with ⟨-, rfl⟩ | ⟨old, new, found, -, name, -, -, -, rfl⟩
  · have names : (d.addEntity s.name s.description true s.line).names = d.names ++ [s.name] := by
      simp [Draft.names, addEntity]
    rw [names, List.map_append]
    exact ⟨by simp, fun _ known => List.mem_append_left _ known⟩
  · obtain ⟨atPlace, sameKey⟩ := of_entity?_eq_some wellFormed.placed found
    have names : (Draft.warn { d with entities := d.entities.set old.index new } s.line
        (.declaredAgain s.name)).names = d.names :=
      Arena.map_set_of_eq atPlace name
    rw [names, ← sameKey]
    exact ⟨List.mem_map_of_mem (List.mem_map_of_mem (List.mem_of_getElem? atPlace)),
      fun _ known => known⟩

theorem knows_of_declared {d e : Draft} (wellFormed : d.WellFormed)
    {declarations : List Declaration} (entered : declarations.foldlM Draft.declare d = .ok e) :
    e.WellFormed ∧ (∀ s ∈ declarations, e.Knows s.name) ∧ ∀ name, d.Knows name → e.Knows name := by
  induction declarations generalizing d with
  | nil =>
    cases entered
    exact ⟨wellFormed, by simp, fun _ known => known⟩
  | cons s rest ih =>
    rw [List.foldlM_cons] at entered
    obtain ⟨next, first, rest⟩ := of_bind_eq_ok entered
    obtain ⟨here, before⟩ := knows_of_declare wellFormed first
    obtain ⟨stays, later, kept⟩ := ih (wellFormed.declare first) rest
    refine ⟨stays, fun t mem => ?_, fun name known => kept name (before name known)⟩
    rcases List.mem_cons.mp mem with rfl | mem
    · exact kept _ here
    · exact later t mem

/-- Reordered documents have regrouped drafts. -/
theorem ofDocument_regrouped {p q : Document} (declared : p.MentionsDeclared)
    (reordered : p.Reordered q) : EndAlike Regrouped (ofDocument p) (ofDocument q) := by
  unfold ofDocument
  rw [← reordered.declarations, ← reordered.diagnostics]
  cases entered : (declarations p.statements).foldlM declare (empty p.diagnostics) with
  | error rejection => exact .error rejection rejection
  | ok d =>
    obtain ⟨wellFormed, names, -⟩ := knows_of_declared (wellFormed_empty _) entered
    refine .ok (regrouped_attach wellFormed ?_ reordered.filter_facts)
    intro f mem name mentioned
    obtain ⟨s, sMem, same⟩ := declared f mem name mentioned
    rw [knows_iff, ← same, ← knows_iff]
    exact names s sMem

/-! ## Deriving -/

theorem Regrouped.length_entities {d e : Draft} (regrouped : Regrouped d e) :
    d.entities.length = e.entities.length := by
  rw [← length_heads, regrouped.heads, length_heads]

theorem Regrouped.cycle?_eq {d e : Draft} (regrouped : Regrouped d e) :
    Derivation.cycle? e.entities.length e.relationships =
      Derivation.cycle? d.entities.length d.relationships := by
  rw [← regrouped.length_entities,
    Derivation.cycle?_renumber regrouped.renumbered.derivableFrom]

/-- In regrouped drafts the same attributes are derived and shadowed, under other numbers. -/
theorem Regrouped.settled_eq {d e : Draft} (regrouped : Regrouped d e) :
    e.settled = d.settled.renumber (matching d e) := by
  rw [settled, settled, ← regrouped.length_entities, ← entityName_congr regrouped.heads,
    Derivation.derive_renumber regrouped.renumbered.explicit regrouped.renumbered.derivableFrom]

theorem Regrouped.withShadowed {d e : Draft} (regrouped : Regrouped d e) :
    Regrouped d.withShadowed e.withShadowed := by
  have notes : d.settled.shadowed = e.settled.shadowed := by
    rw [regrouped.settled_eq]
    rfl
  exact regrouped.noting (notes ▸ .refl _)

/-! ## Checking -/

/-- Checks keep what attributes and relationships are told apart by, and their places. -/
theorem Checked.matching_eq {d d' e e' : Draft} (left : Checked d d') (right : Checked e e') :
    matching d' e' = matching d e := by
  have attributes (l l' : List Attribute) : counterpart Attribute.label Attribute.index l l' =
      counterpart Attribute.label Attribute.index (l.map Attribute.unruled)
        (l'.map Attribute.unruled) :=
    (counterpart_map (f := Attribute.unruled) (fun _ => rfl) fun _ => rfl).symm
  rw [matching, matching, left.relationships, right.relationships, attributes, left.attributes,
    right.attributes, ← attributes]

end Draft

/-- Constraints that are the same but for what backs them correspond when they have grounds. -/
theorem Constraint.Corresponds.of_unbacked {g h : Graph} {derived derived' : List DerivedAttribute}
    {c c' : Constraint} (same : c.unbacked = c'.unbacked) (here : g.draft.Grounds derived c)
    (there : h.draft.Grounds derived' c') : Corresponds g h c c' := by
  obtain ⟨entity, demand, line⟩ := c
  obtain ⟨entity', demand', line'⟩ := c'
  cases demand with
  | onAttribute rule attr isDerived =>
    cases demand' with
    | onAttribute rule' attr' isDerived' =>
      obtain ⟨rfl, ⟨rfl, rfl, rfl⟩, rfl⟩ : entity = entity' ∧
          (rule = rule' ∧ attr = attr' ∧ isDerived = isDerived') ∧ line = line' := by
        simpa [unbacked] using same
      exact .onAttribute ..
    | minCount target' count' relationship' => simp [unbacked] at same
  | minCount target count relationship =>
    cases demand' with
    | onAttribute rule' attr' isDerived' => simp [unbacked] at same
    | minCount target' count' relationship' =>
      obtain ⟨rfl, ⟨rfl, rfl⟩, rfl⟩ : entity = entity' ∧
          (target = target' ∧ count = count') ∧ line = line' := by
        simpa [unbacked] using same
      obtain ⟨r, rMem, rfl, links⟩ := here
      obtain ⟨s, sMem, rfl, alsoLinks⟩ := there
      exact .minCount entity target count line rMem links sMem alsoLinks

/-- The graph that a draft becomes with what was derived and checked. -/
def Draft.toGraph (d : Draft) (derived : List DerivedAttribute) (constraints : List Constraint)
    (unparsed : List Unparsed) : Graph where
  entities := d.checkSubtypes.2.entities
  attributes := d.checkSubtypes.2.attributes
  derived := derived
  relationships := d.checkSubtypes.2.relationships
  constraints := constraints
  subtypeRules := d.checkSubtypes.1
  warnings := d.checkSubtypes.2.diagnostics
  unparsed := unparsed

/-- Regrouped drafts become graphs that agree. -/
theorem Draft.Regrouped.agrees {d e : Draft} (regrouped : Regrouped d e)
    {s t : List Constraint × Draft}
    (left : d.withShadowed.checkRules d.settled.derived d.rules = .ok s)
    (right : e.withShadowed.checkRules e.settled.derived e.rules = .ok t)
    (checked : RegroupedWith s t) (unparsed : List Unparsed) :
    Graph.Agrees (matching d e) (s.2.toGraph d.settled.derived s.1 unparsed)
      (t.2.toGraph e.settled.derived t.1 unparsed) := by
  have shadowed := regrouped.withShadowed
  obtain ⟨sChecked, -⟩ := checkRules_spec shadowed.left shadowed.left.rules left
  obtain ⟨tChecked, -⟩ := checkRules_spec shadowed.right shadowed.right.rules right
  have sKept := (checkSubtypes_spec sChecked.wellFormed).1
  have tKept := (checkSubtypes_spec tChecked.wellFormed).1
  have sGrounds := grounds_of_checkRules shadowed.left shadowed.left.rules left
  have tGrounds := grounds_of_checkRules shadowed.right shadowed.right.rules right
  obtain ⟨final, subtypes⟩ := checked.1.checkSubtypes
  have renumbered : Renumbered (matching d e) s.2.checkSubtypes.2 t.2.checkSubtypes.2 := by
    have numbers := (sChecked.trans sKept).matching_eq (tChecked.trans tKept)
    exact numbers ▸ final.renumbered
  refine ⟨renumbered.attributes, renumbered.relationships, renumbered.entities, renumbered.explicit,
    renumbered.outgoing, ?_, ?_, fun i => (subtypes i).symm, final.diagnostics.symm, rfl⟩
  · intro i
    change e.settled.derived.filter (·.entity == i) = (d.settled.derived.filter _).map _
    rw [regrouped.settled_eq]
    exact Derivation.filter_renumber d.settled.derived i
  · intro i
    refine forall₂_of_map_eq (fun c cMem c' cMem' same => ?_) (checked.2 i)
    exact .of_unbacked same
      (sKept.grounds sChecked.wellFormed (sGrounds c (List.mem_of_mem_filter cMem)))
      (tKept.grounds tChecked.wellFormed (tGrounds c' (List.mem_of_mem_filter cMem')))

namespace Graph

/-- Reordered documents have graphs that agree, or both have none. -/
theorem endAlike_ofDocument {p q : Document} (declared : p.MentionsDeclared)
    (reordered : p.Reordered q) :
    EndAlike (fun g h => ∃ n, Agrees n g h) (ofDocument p) (ofDocument q) := by
  unfold ofDocument
  rw [← reordered.unparsed]
  refine (Draft.ofDocument_regrouped declared reordered).bind fun d e regrouped => ?_
  unfold Draft.derive
  rw [regrouped.cycle?_eq]
  cases Derivation.cycle? d.entities.length d.relationships with
  | some cycle => exact .error _ _
  | none =>
    have outlines : d.settled.derived.map (·.outline) = e.settled.derived.map (·.outline) := by
      rw [regrouped.settled_eq, Derivation.State.renumber, List.map_map]
      rfl
    have checks := regrouped.withShadowed.checkRules outlines
    have remembered := checks.imp fun s t left right checked =>
      regrouped.agrees left right checked p.unparsed
    exact remembered.bind fun s t agrees => .ok ⟨_, agrees⟩

/-- Facts about different entities commute.  When the facts of a document mention declared entities
only, and its statements are reordered such that the declarations and the facts about each entity
keep their order, the one document has a graph when the other has one, and the two graphs are the
same up to the numbers of attributes and relationships. -/
theorem ofDocument_reordered {p q : Document} (declared : p.MentionsDeclared)
    (reordered : p.Reordered q) :
    ((∃ g, ofDocument p = .ok g) ↔ ∃ h, ofDocument q = .ok h) ∧
      ∀ g h, ofDocument p = .ok g → ofDocument q = .ok h → ∃ n, Agrees n g h :=
  have alike := endAlike_ofDocument declared reordered
  ⟨alike.isOk_iff, fun _ _ left right => alike.of_ok left right⟩

end Graph

/-! ## An example -/

/-- A document that declares orders and customers and then states facts about them. -/
def Document.ofOrders (facts : List Fact) : Document where
  statements := .declaration ⟨1, "**Order**", "Order", ""⟩ ::
    .declaration ⟨2, "**Customer**", "Customer", ""⟩ :: facts.map .fact
  unparsed := []
  diagnostics := []
  entityNames := ["Order", "Customer"]

/-- What is stated about orders. -/
def Fact.ofOrder : List Fact :=
  [⟨3, "has an Identifier", "Order", "Order", .hasAttribute "Identifier" none none true⟩,
    ⟨4, "has one Customer", "Order", "Order", .relatedTo "Customer" .manyToOne⟩]

/-- What is stated about customers. -/
def Fact.ofCustomer : List Fact :=
  [⟨6, "has many Orders", "Customer", "Customer", .relatedTo "Order" .oneToMany⟩,
    ⟨7, "has a Name", "Customer", "Customer", .hasAttribute "Name" none none false⟩,
    ⟨8, "must have at least one Order", "Customer", "Customer", .obeys (.minCount "Order" 1)⟩]

/-- Orders first. -/
def Document.ordersFirst : Document :=
  .ofOrders (Fact.ofOrder ++ Fact.ofCustomer)

/-- Customers first. -/
def Document.customersFirst : Document :=
  .ofOrders (Fact.ofCustomer ++ Fact.ofOrder)

namespace Graph

/-- Which facts come first decides which of two relationships backs a count. -/
theorem agrees_backedOtherwise : ∃ g h n, ofDocument .ordersFirst = .ok g ∧
    ofDocument .customersFirst = .ok h ∧ Agrees n g h ∧
      g.constraints = [⟨1, .minCount 0 1 0, 8⟩] ∧ h.constraints = [⟨1, .minCount 0 1 0, 8⟩] ∧
      g.relationships.map (·.source) = [0, 1] ∧ h.relationships.map (·.source) = [1, 0] := by
  have declared : Document.ordersFirst.MentionsDeclared := by decide +kernel
  have reordered : Document.ordersFirst.Reordered .customersFirst :=
    ⟨by decide +kernel, rfl, by decide +kernel, rfl, rfl⟩
  have ordersFirst : (ofDocument .ordersFirst).toOption.any (fun g =>
      g.constraints == [⟨1, .minCount 0 1 0, 8⟩] && g.relationships.map (·.source) == [0, 1]) =
        true := by
    decide +kernel
  have customersFirst : (ofDocument .customersFirst).toOption.any (fun h =>
      h.constraints == [⟨1, .minCount 0 1 0, 8⟩] && h.relationships.map (·.source) == [1, 0]) =
        true := by
    decide +kernel
  have agree := (ofDocument_reordered declared reordered).2
  cases left : ofDocument .ordersFirst with
  | error e => simp [left, Except.toOption] at ordersFirst
  | ok g =>
    cases right : ofDocument .customersFirst with
    | error e => simp [right, Except.toOption] at customersFirst
    | ok h =>
      simp only [left, right, Except.toOption, Option.any_some, Bool.and_eq_true, beq_iff_eq]
        at ordersFirst customersFirst
      obtain ⟨n, agrees⟩ := agree g h left right
      exact ⟨g, h, n, rfl, rfl, agrees, ordersFirst.1, customersFirst.1, ordersFirst.2,
        customersFirst.2⟩

end Graph

end FactModel
