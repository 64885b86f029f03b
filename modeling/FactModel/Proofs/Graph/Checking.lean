import FactModel.Proofs.Graph.Attaching

/-!
# Checking rules and subtypes

When all attributes are known, the rules and the subtypes that were set aside are looked at.  A rule
may make an attribute required, and either may leave a note; otherwise the draft is not touched any
more.
-/

namespace FactModel

/-- An attribute regardless of whether a rule requires it. -/
def Attribute.unruled (a : Attribute) : Attribute :=
  { a with required := false }

namespace Draft

open Arena

/-- A well-formed draft of which attributes may have become required and to which notes may have
been added. -/
structure Checked (d e : Draft) : Prop where
  wellFormed : e.WellFormed
  entities : e.entities = d.entities
  attributes : e.attributes.map Attribute.unruled = d.attributes.map Attribute.unruled
  relationships : e.relationships = d.relationships
  rules : e.rules = d.rules
  subtypes : e.subtypes = d.subtypes
  diagnostics : counted e.diagnostics = counted d.diagnostics

theorem Checked.trans {d e f : Draft} (first : Checked d e) (second : Checked e f) : Checked d f :=
  ⟨second.wellFormed, second.entities.trans first.entities,
    second.attributes.trans first.attributes, second.relationships.trans first.relationships,
    second.rules.trans first.rules, second.subtypes.trans first.subtypes,
    second.diagnostics.trans first.diagnostics⟩

theorem Noted.counted_diagnostics {d e : Draft} (noted : Noted d e) :
    counted e.diagnostics = counted d.diagnostics := by
  obtain ⟨notes, rfl, others⟩ := noted
  have none : counted notes = [] := by
    rw [counted, List.filter_eq_nil_iff]
    intro note mem
    simp [others note mem]
  rw [counted_append, none, List.append_nil]

theorem Noted.checked {d e : Draft} (noted : Noted d e) (wellFormed : d.WellFormed) :
    Checked d e := by
  have same := noted.counted_diagnostics
  have eWellFormed := noted.wellFormed wellFormed
  obtain ⟨notes, rfl, -⟩ := noted
  exact ⟨eWellFormed, rfl, rfl, rfl, rfl, rfl, same⟩

theorem Checked.refl {d : Draft} (wellFormed : d.WellFormed) : Checked d d :=
  (Noted.refl d).checked wellFormed

/-- An attribute may be made required. -/
theorem checked_require {d : Draft} (wellFormed : d.WellFormed) {a : Attribute}
    (mem : a ∈ d.attributes) : Checked d (d.setAttribute { a with required := true }) := by
  have found := wellFormed.placed.attributeIndex.getElem? mem
  refine ⟨?_, rfl, map_set_of_eq found rfl, rfl, rfl, rfl, rfl⟩
  refine wellFormed.setAttribute mem rfl rfl rfl rfl
    (wellFormed.apart.referenceType a mem) (wellFormed.apart.referencePlain a mem) ?_
  intro identifying b bMem owner bIdentifying
  exact wellFormed.apart.identifiers b bMem a mem owner bIdentifying identifying

theorem checkAttributeRule_spec {derived : List DerivedAttribute} {d e : Draft}
    (wellFormed : d.WellFormed) {entity line : Nat} {rule : AttributeRule} {name : String}
    {c : Constraint} (checked : d.checkAttributeRule derived entity line rule name = .ok (c, e)) :
    Checked d e ∧ c.entity = entity ∧
      ∀ target count relationship, c.demand ≠ .minCount target count relationship := by
  unfold checkAttributeRule at checked
  extract_lets explicit? derived? found? at checked
  have known (a : Attribute) (look : explicit? = some a) : a ∈ d.attributes :=
    (of_attribute?_eq_some wellFormed.placed look).1
  clear_value found? explicit?
  split at checked
  · contradiction
  · next d₁ _ attr type =>
    extract_lets d₂ at checked
    have first : Checked d d₁ := by
      simp only [d₁]
      split
      · next a => exact checked_require wellFormed (known a rfl)
      · exact Checked.refl wellFormed
    have second : Checked d d₂ := by
      simp only [d₂]
      split
      · exact first.trans (((Noted.refl d₁).warn line rfl).checked first.wellFormed)
      · exact first
    clear_value d₂
    cases checked
    exact ⟨second, rfl, by simp⟩

/-- The positions that a constraint names are positions of the draft. -/
def InRange (d : Draft) (c : Constraint) : Prop :=
  c.entity < d.entities.length ∧
    ∀ target count relationship, c.demand = .minCount target count relationship →
      target < d.entities.length ∧ relationship < d.relationships.length

theorem Checked.inRange_iff {d e : Draft} (checked : Checked d e) {c : Constraint} :
    e.InRange c ↔ d.InRange c := by
  rw [InRange, InRange, checked.entities, checked.relationships]

/-- The check of one rule. -/
def checkRule (derived : List DerivedAttribute) (d : Draft) (rule : PendingRule) :
    Except Rejection (Constraint × Draft) :=
  match rule.demand with
  | .onAttribute demand attr => d.checkAttributeRule derived rule.entity rule.line demand attr
  | .minCount target count => d.checkCountRule rule.entity rule.line target count

theorem checkRules_cons (derived : List DerivedAttribute) (d : Draft) (rule : PendingRule)
    (rules : List PendingRule) :
    d.checkRules derived (rule :: rules) = (d.checkRule derived rule).bind fun first =>
      (first.2.checkRules derived rules).bind fun later => .ok (first.1 :: later.1, later.2) := by
  rw [checkRules, checkRule]
  cases rule.demand <;> rfl

theorem checkRule_spec {derived : List DerivedAttribute} {d e : Draft} (wellFormed : d.WellFormed)
    {rule : PendingRule} (entity : rule.entity < d.entities.length)
    (target : ∀ target count, rule.demand = .minCount target count → target < d.entities.length)
    {c : Constraint} (checked : d.checkRule derived rule = .ok (c, e)) :
    Checked d e ∧ d.InRange c := by
  unfold checkRule at checked
  split at checked
  · obtain ⟨kept, owner, other⟩ := checkAttributeRule_spec wellFormed checked
    refine ⟨kept, owner ▸ entity, ?_⟩
    intro target count relationship demand
    exact absurd demand (other target count relationship)
  · next t n demand =>
    unfold checkCountRule at checked
    split at checked
    · contradiction
    · next r linked =>
      cases checked
      refine ⟨Checked.refl wellFormed, entity, ?_⟩
      intro t n relationship isCount
      cases isCount
      exact ⟨target _ _ demand, wellFormed.apart.relationshipIndex.lt_length
        (List.mem_of_find?_eq_some linked)⟩

/-- Checking rules makes attributes required and leaves notes, and the constraints it comes to speak
of elements that there are. -/
theorem checkRules_spec {derived : List DerivedAttribute} {d e : Draft} (wellFormed : d.WellFormed)
    {rules : List PendingRule}
    (inRange : ∀ rule ∈ rules, rule.entity < d.entities.length ∧
      ∀ target count, rule.demand = .minCount target count → target < d.entities.length)
    {constraints : List Constraint} (checked : d.checkRules derived rules = .ok (constraints, e)) :
    Checked d e ∧ ∀ c ∈ constraints, e.InRange c := by
  induction rules generalizing d constraints with
  | nil =>
    cases checked
    exact ⟨Checked.refl wellFormed, by simp⟩
  | cons rule rules ih =>
    rw [checkRules_cons] at checked
    obtain ⟨⟨c, d₁⟩, one, checked⟩ := of_bind_eq_ok checked
    obtain ⟨⟨cs, d₂⟩, others, checked⟩ := of_bind_eq_ok checked
    cases checked
    obtain ⟨entityBound, targetBound⟩ := inRange rule (by simp)
    obtain ⟨checked₁, cInRange⟩ := checkRule_spec wellFormed entityBound targetBound one
    obtain ⟨checked₂, csInRange⟩ := ih checked₁.wellFormed (by
      intro other mem
      rw [checked₁.entities]
      exact inRange other (List.mem_cons_of_mem _ mem)) others
    refine ⟨checked₁.trans checked₂, ?_⟩
    intro other mem
    rcases List.mem_cons.mp mem with rfl | mem
    · exact (checked₁.trans checked₂).inRange_iff.mpr cInRange
    · exact csInRange other mem

theorem noted_checkSubtypes (d : Draft) : Noted d d.checkSubtypes.2 := by
  have noted (rules : List SubtypeRule) {n : Draft} (before : Noted d n) :
      Noted d (rules.foldl (fun d r => d.warn r.line (.ownSubtype (d.entityName r.subtype))) n) := by
    induction rules generalizing n with
    | nil => exact before
    | cons rule rules ih => exact ih (before.warn rule.line rfl)
  exact noted _ (Noted.refl d)

/-- Checking subtypes leaves notes, and the rules that remain are among those set aside. -/
theorem checkSubtypes_spec {d : Draft} (wellFormed : d.WellFormed) :
    Checked d d.checkSubtypes.2 ∧ d.checkSubtypes.1 ⊆ d.subtypes :=
  ⟨(noted_checkSubtypes d).checked wellFormed, List.filter_subset_self _⟩

end Draft

end FactModel
