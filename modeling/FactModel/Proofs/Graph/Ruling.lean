import FactModel.Proofs.Graph.Stating

/-!
# What rules come to

A rule becomes a constraint only when what it names is there.  A constraint on an attribute gives
the name that the explicit or the derived attribute has, and a constraint on a count gives the
relationship by which the entities are linked.

No statement of a fact makes an attribute required.  Only the check of a rule does so, when the rule
says that an explicit attribute is never missing, and the constraint that the rule comes to names
that attribute.  Hence all checks together require of an attribute just what the constraints say of
it.  A rule on a derived attribute requires nothing, and there is one only where no explicit
attribute goes by that name.
-/

namespace FactModel

/-! ## What constraints are about -/

namespace Draft

/-- What a constraint on the attributes of a draft, explicit and derived, or on related rows is
about. -/
def Grounds (d : Draft) (derived : List DerivedAttribute) (c : Constraint) : Prop :=
  match c.demand with
  | .onAttribute _ attr false => ∃ a ∈ d.attributesOf c.entity, a.name = attr
  | .onAttribute _ attr true => ∃ a ∈ derived, a.entity = c.entity ∧ a.name = attr
  | .minCount target _ i => ∃ r ∈ d.relationships, r.index = i ∧ links r c.entity target = true

/-- Checks keep the names of the attributes and the relationships. -/
theorem Checked.grounds {d e : Draft} (checked : Checked d e) (wellFormed : d.WellFormed)
    {derived : List DerivedAttribute} {c : Constraint} (grounds : d.Grounds derived c) :
    e.Grounds derived c := by
  unfold Grounds at grounds ⊢
  split at grounds
  · obtain ⟨a, mem, rfl⟩ := grounds
    have shown := List.mem_map_of_mem (f := Attribute.unruled) mem
    rw [← checked.attributesOf wellFormed] at shown
    obtain ⟨b, bMem, same⟩ := List.mem_map.mp shown
    exact ⟨b, bMem, congrArg (·.name) same⟩
  · exact grounds
  · rw [checked.relationships]
    exact grounds

theorem grounds_of_checkAttributeRule {derived : List DerivedAttribute} {d e : Draft}
    {entity line : Nat} {rule : AttributeRule} {name : String} {c : Constraint}
    (checked : d.checkAttributeRule derived entity line rule name = .ok (c, e)) :
    d.Grounds derived c := by
  unfold checkAttributeRule at checked
  extract_lets explicit? derived? found? at checked
  cases isFound : found? with
  | none => simp [isFound] at checked
  | some found =>
    obtain ⟨attr, type⟩ := found
    simp only [isFound, Except.ok.injEq, Prod.mk.injEq] at checked
    obtain ⟨rfl, -⟩ := checked
    cases explicit : explicit? with
    | some a =>
      have same : (a.name, a.type) = (attr, type) := by simpa [found?, explicit] using isFound
      exact ⟨a, List.mem_of_find?_eq_some explicit, congrArg (·.1) same⟩
    | none =>
      obtain ⟨a, spelled, same⟩ : ∃ a, derived? = some a ∧ (a.name, a.type) = (attr, type) := by
        simpa [found?, explicit] using isFound
      have owner := List.find?_some spelled
      simp only [Bool.and_eq_true, beq_iff_eq] at owner
      exact ⟨a, List.mem_of_find?_eq_some spelled, owner.1, congrArg (·.1) same⟩

theorem grounds_of_checkRule {derived : List DerivedAttribute} {d e : Draft} {rule : PendingRule}
    {c : Constraint} (checked : d.checkRule derived rule = .ok (c, e)) : d.Grounds derived c := by
  unfold checkRule at checked
  split at checked
  · exact grounds_of_checkAttributeRule checked
  · unfold checkCountRule at checked
    split at checked
    · contradiction
    · next r found =>
      cases checked
      exact ⟨r, List.mem_of_find?_eq_some found, rfl, (List.find?_some found :)⟩

/-- What holds of a constraint when its rule is checked, and still holds after further checks, holds
of all constraints in the end. -/
theorem forall_mem_of_checkRules {P : Draft → Constraint → Prop} {derived : List DerivedAttribute}
    (made : ∀ {d e : Draft} {rule : PendingRule} {c : Constraint}, d.WellFormed →
      d.checkRule derived rule = .ok (c, e) → P d c)
    (kept : ∀ {d e : Draft} {c : Constraint}, d.WellFormed → Checked d e → P d c → P e c)
    {d e : Draft} (wellFormed : d.WellFormed) {rules : List PendingRule}
    (inRange : ∀ rule ∈ rules, rule.entity < d.entities.length ∧
      ∀ target count, rule.demand = .minCount target count → target < d.entities.length)
    {constraints : List Constraint} (checked : d.checkRules derived rules = .ok (constraints, e)) :
    ∀ c ∈ constraints, P e c := by
  induction rules generalizing d constraints with
  | nil =>
    cases checked
    simp
  | cons rule rules ih =>
    have whole := (checkRules_spec wellFormed inRange checked).1
    rw [checkRules_cons] at checked
    obtain ⟨⟨c, d₁⟩, one, checked⟩ := of_bind_eq_ok checked
    obtain ⟨⟨cs, d₂⟩, others, checked⟩ := of_bind_eq_ok checked
    cases checked
    obtain ⟨entityBound, targetBound⟩ := inRange rule List.mem_cons_self
    have first := (checkRule_spec wellFormed entityBound targetBound one).1
    intro other mem
    rcases List.mem_cons.mp mem with rfl | later
    · exact kept wellFormed whole (made wellFormed one)
    · refine ih first.wellFormed (fun rule mem => ?_) others other later
      rw [first.entities]
      exact inRange rule (List.mem_cons_of_mem _ mem)

theorem grounds_of_checkRules {derived : List DerivedAttribute} {d e : Draft}
    (wellFormed : d.WellFormed) {rules : List PendingRule}
    (inRange : ∀ rule ∈ rules, rule.entity < d.entities.length ∧
      ∀ target count, rule.demand = .minCount target count → target < d.entities.length)
    {constraints : List Constraint} (checked : d.checkRules derived rules = .ok (constraints, e)) :
    ∀ c ∈ constraints, e.Grounds derived c :=
  forall_mem_of_checkRules (fun _ one => grounds_of_checkRule one)
    (fun wellFormed checked => checked.grounds wellFormed) wellFormed inRange checked

end Draft

/-- What the constraints of a compiled graph are about is there. -/
theorem grounds_of_compile {text : String} {g : Graph} (compiles : compile text = .ok g) :
    ∀ c ∈ g.constraints, g.draft.Grounds g.derived c := by
  obtain ⟨doc, read, built⟩ := parse_of_compile compiles
  obtain ⟨d, e, constraints, drafted, -, checks, rfl⟩ := Graph.ofDocument_eq_ok built
  obtain ⟨wellFormed, rulesChecked, subtypesChecked⟩ :=
    Draft.checked_of_checkRules read drafted checks
  intro c mem
  exact subtypesChecked.grounds rulesChecked.wellFormed
    (Draft.grounds_of_checkRules wellFormed wellFormed.rules checks c mem)

/-! ## What makes an attribute required -/

/-- Whether a constraint says that an explicit attribute is never missing. -/
def Constraint.requires (c : Constraint) (a : Attribute) : Bool :=
  c.entity == a.entity && c.demand == .onAttribute .notNull a.name false

theorem Constraint.requires_iff {c : Constraint} {a : Attribute} : c.requires a = true ↔
    c.entity = a.entity ∧ c.demand = .onAttribute .notNull a.name false := by
  simp [requires]

/-- An attribute on which constraints have been imposed. -/
def Attribute.under (constraints : List Constraint) (a : Attribute) : Attribute :=
  { a with required := a.required || constraints.any (·.requires a) }

namespace Attribute

@[simp]
theorem under_nil (a : Attribute) : a.under [] = a := by
  simp [under]

theorem under_cons (c : Constraint) (cs : List Constraint) (a : Attribute) :
    a.under (c :: cs) = (a.under [c]).under cs := by
  simp [under, Constraint.requires, Bool.or_assoc]

/-- A constraint that says nothing of an attribute leaves it as it is. -/
theorem under_singleton_of_not_requires {c : Constraint} {a : Attribute}
    (silent : c.requires a = false) : a.under [c] = a := by
  simp [under, silent]

theorem under_singleton_of_requires {c : Constraint} {a : Attribute}
    (requires : c.requires a = true) : a.under [c] = { a with required := true } := by
  simp [under, requires]

end Attribute

namespace Draft

open Arena

/-! ## Imposing constraints -/

/-- Making an attribute required imposes the constraint that names it: no other attribute has that
owner and that name. -/
theorem attributes_require {d : Draft} (wellFormed : d.WellFormed) {a : Attribute}
    (mem : a ∈ d.attributes) {c : Constraint} (requires : c.requires a = true) :
    (d.setAttribute { a with required := true }).attributes =
      d.attributes.map (Attribute.under [c]) := by
  have indexed := wellFormed.placed.attributeIndex
  obtain ⟨owner, named⟩ := Constraint.requires_iff.mp requires
  refine List.ext_getElem? fun i => ?_
  simp only [setAttribute, List.getElem?_set, List.getElem?_map]
  split
  · next same =>
    subst same
    rw [indexed.getElem? mem, if_pos (indexed.lt_length mem), Option.map_some,
      Attribute.under_singleton_of_requires requires]
  · next differs =>
    cases found : d.attributes[i]? with
    | none => rfl
    | some b =>
      have silent : c.requires b = false := by
        rw [Bool.eq_false_iff]
        intro bRequires
        obtain ⟨bOwner, bNamed⟩ := Constraint.requires_iff.mp bRequires
        obtain ⟨-, sameName, -⟩ := Demand.onAttribute.inj (named.symm.trans bNamed)
        refine differs ?_
        rw [← indexed i b found]
        exact wellFormed.apart.attributeKeys a mem b (List.mem_of_getElem? found)
          (owner.symm.trans bOwner) (by rw [sameName])
      rw [Option.map_some, Attribute.under_singleton_of_not_requires silent]

/-- A constraint that is not about an explicit attribute being there leaves all attributes. -/
theorem map_under_of_not_requires {c : Constraint} (attributes : List Attribute)
    (silent : ∀ a, c.requires a = false) :
    attributes.map (Attribute.under [c]) = attributes := by
  refine (List.map_congr_left fun a _ => ?_).trans (List.map_id _)
  exact Attribute.under_singleton_of_not_requires (silent a)

theorem attributes_of_checkAttributeRule {derived : List DerivedAttribute} {d e : Draft}
    (wellFormed : d.WellFormed) {entity line : Nat} {rule : AttributeRule} {name : String}
    {c : Constraint} (checked : d.checkAttributeRule derived entity line rule name = .ok (c, e)) :
    e.attributes = d.attributes.map (Attribute.under [c]) := by
  unfold checkAttributeRule at checked
  extract_lets explicit? derived? found? d₁ at checked
  cases isFound : found? with
  | none => simp [isFound] at checked
  | some found =>
    obtain ⟨attr, type⟩ := found
    simp -zeta only [isFound] at checked
    extract_lets d₂ at checked
    obtain ⟨rfl, rfl⟩ : _ = c ∧ d₂ = e := by simpa using checked
    have noted : d₂.attributes = d₁.attributes := by
      simp only [d₂]
      split <;> rfl
    rw [noted]
    cases explicit : explicit? with
    | none =>
      have kept : d₁ = d := by
        simp only [d₁, explicit]
      rw [kept, map_under_of_not_requires _ fun a => by simp [Constraint.requires]]
    | some a =>
      obtain ⟨mem, owner, -⟩ := of_attribute?_eq_some wellFormed.placed explicit
      have spelled : a.name = attr := by
        simpa [found?, explicit] using congrArg (Option.map Prod.fst) isFound
      cases rule with
      | notNull =>
        have set : d₁ = d.setAttribute { a with required := true } := by
          simp only [d₁, explicit]
        rw [set]
        exact attributes_require wellFormed mem (by simp [Constraint.requires, owner, spelled])
      | inPast | like pattern =>
        rw [map_under_of_not_requires _ fun a => by simp [Constraint.requires]]

/-- The check of a rule imposes the constraint that the rule comes to. -/
theorem attributes_of_checkRule {derived : List DerivedAttribute} {d e : Draft}
    (wellFormed : d.WellFormed) {rule : PendingRule} {c : Constraint}
    (checked : d.checkRule derived rule = .ok (c, e)) :
    e.attributes = d.attributes.map (Attribute.under [c]) := by
  unfold checkRule at checked
  split at checked
  · exact attributes_of_checkAttributeRule wellFormed checked
  · unfold checkCountRule at checked
    split at checked
    · contradiction
    · cases checked
      rw [map_under_of_not_requires _ fun a => by simp [Constraint.requires]]

/-- Checking rules imposes the constraints that they come to, and changes no attribute otherwise. -/
theorem attributes_of_checkRules {derived : List DerivedAttribute} {d e : Draft}
    (wellFormed : d.WellFormed) {rules : List PendingRule}
    (inRange : ∀ rule ∈ rules, rule.entity < d.entities.length ∧
      ∀ target count, rule.demand = .minCount target count → target < d.entities.length)
    {constraints : List Constraint} (checked : d.checkRules derived rules = .ok (constraints, e)) :
    e.attributes = d.attributes.map (Attribute.under constraints) := by
  induction rules generalizing d constraints with
  | nil =>
    cases checked
    exact ((List.map_congr_left fun a _ => Attribute.under_nil a).trans (List.map_id _)).symm
  | cons rule rules ih =>
    rw [checkRules_cons] at checked
    obtain ⟨⟨c, d₁⟩, one, checked⟩ := of_bind_eq_ok checked
    obtain ⟨⟨cs, d₂⟩, others, checked⟩ := of_bind_eq_ok checked
    cases checked
    obtain ⟨entityBound, targetBound⟩ := inRange rule List.mem_cons_self
    have first := (checkRule_spec wellFormed entityBound targetBound one).1
    have later := ih first.wellFormed (fun rule mem => by
      rw [first.entities]
      exact inRange rule (List.mem_cons_of_mem _ mem)) others
    rw [later, attributes_of_checkRule wellFormed one, List.map_map]
    exact List.map_congr_left fun a _ => (Attribute.under_cons c cs a).symm

/-! ## Names of derived attributes -/

/-- No explicit attribute goes by the name of a derived one that a constraint is about. -/
def Unspelled (d : Draft) (c : Constraint) : Prop :=
  ∀ rule attr, c.demand = .onAttribute rule attr true →
    ∀ a ∈ d.attributesOf c.entity, Name.key a.name ≠ Name.key attr

theorem Checked.unspelled {d e : Draft} (checked : Checked d e) (wellFormed : d.WellFormed)
    {c : Constraint} (unspelled : d.Unspelled c) : e.Unspelled c := by
  intro rule attr demand a mem
  have shown := List.mem_map_of_mem (f := Attribute.unruled) mem
  rw [checked.attributesOf wellFormed] at shown
  obtain ⟨b, bMem, same⟩ := List.mem_map.mp shown
  have sameName : b.name = a.name := congrArg (·.name) same
  rw [← sameName]
  exact unspelled rule attr demand b bMem

theorem unspelled_of_checkRule {derived : List DerivedAttribute} {d e : Draft} {rule : PendingRule}
    {c : Constraint} (checked : d.checkRule derived rule = .ok (c, e)) : d.Unspelled c := by
  unfold checkRule at checked
  split at checked
  · next demand name _ =>
    unfold checkAttributeRule at checked
    extract_lets explicit? derived? found? at checked
    cases isFound : found? with
    | none => simp [isFound] at checked
    | some found =>
      obtain ⟨attr, type⟩ := found
      simp only [isFound, Except.ok.injEq, Prod.mk.injEq] at checked
      obtain ⟨rfl, -⟩ := checked
      intro rule spelled demands a mem
      obtain ⟨-, rfl, missing⟩ := Demand.onAttribute.inj demands
      have missing : explicit? = none := Option.isNone_iff_eq_none.mp missing
      -- The derived attribute was looked up by the same key as the explicit one.
      obtain ⟨b, bFound, bName⟩ : ∃ b, derived? = some b ∧ (b.name, b.type) = (attr, type) := by
        simpa [found?, missing] using isFound
      have bSpelled := List.find?_some bFound
      simp only [Bool.and_eq_true, beq_iff_eq] at bSpelled
      have bName : b.name = attr := congrArg Prod.fst bName
      rw [← bName, bSpelled.2]
      simpa using List.find?_eq_none.mp missing a mem
  · unfold checkCountRule at checked
    split at checked
    · contradiction
    · cases checked
      exact fun rule attr demands => by simp at demands

end Draft

/-! ## Compiled graphs -/

/-- The attributes of a compiled graph are those that were stated, which require nothing, under the
constraints of the graph. -/
theorem attributes_of_compile {text : String} {g : Graph} (compiles : compile text = .ok g) :
    ∃ stated : List Attribute, (∀ a ∈ stated, a.required = false) ∧
      g.attributes = stated.map (Attribute.under g.constraints) := by
  obtain ⟨doc, read, built⟩ := parse_of_compile compiles
  obtain ⟨d, e, constraints, drafted, -, checks, rfl⟩ := Graph.ofDocument_eq_ok built
  have wellFormed := (Draft.checked_of_checkRules read drafted checks).1
  have stated := Draft.stated_of_ofDocument read drafted
  refine ⟨d.attributes, fun a mem => (stated.attributes a mem).optional, ?_⟩
  rw [(Draft.noted_checkSubtypes e).attributes]
  exact Draft.attributes_of_checkRules wellFormed wellFormed.rules checks

/-- An explicit attribute is required just when a constraint says so. -/
theorem required_iff_of_compile {text : String} {g : Graph} (compiles : compile text = .ok g)
    {a : Attribute} (mem : a ∈ g.attributes) : a.required = true ↔ ∃ c ∈ g.constraints,
      c.entity = a.entity ∧ c.demand = .onAttribute .notNull a.name false := by
  obtain ⟨stated, optional, attributes⟩ := attributes_of_compile compiles
  rw [attributes] at mem
  obtain ⟨b, bMem, rfl⟩ := List.mem_map.mp mem
  simp only [Attribute.under, optional b bMem, Bool.false_or, List.any_eq_true,
    Constraint.requires_iff]

/-- A constraint is on a derived attribute only where no explicit one goes by its name. -/
theorem unspelled_of_compile {text : String} {g : Graph} (compiles : compile text = .ok g) :
    ∀ c ∈ g.constraints, g.draft.Unspelled c := by
  obtain ⟨doc, read, built⟩ := parse_of_compile compiles
  obtain ⟨d, e, constraints, drafted, -, checks, rfl⟩ := Graph.ofDocument_eq_ok built
  obtain ⟨wellFormed, rulesChecked, subtypesChecked⟩ :=
    Draft.checked_of_checkRules read drafted checks
  intro c mem
  refine subtypesChecked.unspelled rulesChecked.wellFormed ?_
  exact Draft.forall_mem_of_checkRules (fun _ one => Draft.unspelled_of_checkRule one)
    (fun wellFormed checked => checked.unspelled wellFormed) wellFormed wellFormed.rules checks
    c mem

end FactModel
