import FactModel.Proofs.Graph.Rechecking
import FactModel.Proofs.Graph.Ruling

/-!
# Rules that are stated again

What a constraint is about goes by the very name that the constraint gives.  A rule that demands the
same under this name therefore comes to the same constraint again, in every draft with the same
attributes and relationships, wherever these are stated.
-/

namespace FactModel

/-- A demand before it is known what backs it. -/
def Demand.pending : Demand → PendingDemand
  | .onAttribute rule attr _ => .onAttribute rule attr
  | .minCount target count _ => .minCount target count

/-- The rule from which a constraint comes. -/
def Constraint.pending (c : Constraint) : Nat × PendingDemand :=
  (c.entity, c.demand.pending)

/-- A constraint wherever its rule was stated and whatever relationship backs it. -/
def Constraint.told (c : Constraint) : Constraint :=
  { c.unbacked with line := 0 }

/-- A rule wherever it was stated. -/
def PendingRule.told (rule : PendingRule) : Nat × PendingDemand :=
  (rule.entity, rule.demand)

/-- A relationship regardless of its place. -/
def Relationship.told (r : Relationship) : Relationship :=
  { r with index := 0, line := 0 }

/-- No two derived attributes of an entity have names with the same key. -/
def DerivedAttribute.Apart (derived : List DerivedAttribute) : Prop :=
  ∀ a ∈ derived, ∀ b ∈ derived, a.entity = b.entity → Name.key a.name = Name.key b.name →
    a.name = b.name

theorem DerivedAttribute.Apart.congr {derived derived' : List DerivedAttribute} (apart : Apart derived)
    (outlines : derived'.map (·.outline) = derived.map (·.outline)) : Apart derived' := by
  have exists_outline {a : DerivedAttribute} (mem : a ∈ derived') :
      ∃ b ∈ derived, b.entity = a.entity ∧ b.name = a.name := by
    have shown := List.mem_map_of_mem (f := DerivedAttribute.outline) mem
    rw [outlines] at shown
    obtain ⟨b, bMem, same⟩ := List.mem_map.mp shown
    exact ⟨b, bMem, congrArg (·.1) same, congrArg (·.2.1) same⟩
  intro a aMem b bMem owner key
  obtain ⟨a', aMem', aOwner, aName⟩ := exists_outline aMem
  obtain ⟨b', bMem', bOwner, bName⟩ := exists_outline bMem
  rw [← aName, ← bName] at key ⊢
  exact apart a' aMem' b' bMem' (by rw [aOwner, bOwner, owner]) key

namespace Draft

/-- What a constraint is about is there, under the name that the constraint gives. -/
def Backs (d : Draft) (derived : List DerivedAttribute) (c : Constraint) : Prop :=
  match c.demand with
  | .onAttribute _ attr false => ∃ a ∈ d.attributesOf c.entity, a.name = attr
  | .onAttribute _ attr true =>
    (∀ a ∈ d.attributesOf c.entity, Name.key a.name ≠ Name.key attr) ∧
      ∃ a ∈ derived, a.entity = c.entity ∧ a.name = attr
  | .minCount target _ _ => ∃ r ∈ d.relationships, links r c.entity target = true

section Backs

variable {d e : Draft} {derived derived' : List DerivedAttribute} {c : Constraint}

theorem backs_of_grounds (grounds : d.Grounds derived c) (unspelled : d.Unspelled c) :
    d.Backs derived c := by
  rw [Grounds] at grounds
  rw [Backs]
  cases demand : c.demand with
  | onAttribute rule attr isDerived =>
    rw [demand] at grounds
    cases isDerived with
    | false => exact grounds
    | true => exact ⟨unspelled rule attr demand, grounds⟩
  | minCount target count i =>
    rw [demand] at grounds
    obtain ⟨r, mem, -, linked⟩ := grounds
    exact ⟨r, mem, linked⟩

/-- Only the names of attributes and the ends of relationships matter. -/
theorem Backs.congr (backs : d.Backs derived c)
    (names : (e.attributesOf c.entity).map (·.name) = (d.attributesOf c.entity).map (·.name))
    (outlines : derived'.map (·.outline) = derived.map (·.outline))
    (related : ∀ r ∈ d.relationships, ∃ s ∈ e.relationships, s.told = r.told) :
    e.Backs derived' c := by
  unfold Backs at backs ⊢
  split at backs
  · next attr _ =>
    rw [← List.mem_map] at backs ⊢
    rwa [names]
  · next attr _ =>
    obtain ⟨unspelled, a, mem, owner, named⟩ := backs
    constructor
    · intro b bMem
      have shown := List.mem_map_of_mem (f := (·.name)) bMem
      rw [names] at shown
      obtain ⟨b', bMem', same⟩ := List.mem_map.mp shown
      exact same ▸ unspelled b' bMem'
    · have shown := List.mem_map_of_mem (f := DerivedAttribute.outline) mem
      rw [← outlines] at shown
      obtain ⟨a', mem', same⟩ := List.mem_map.mp shown
      exact ⟨a', mem', (congrArg (·.1) same).trans owner, (congrArg (·.2.1) same).trans named⟩
  · next target _ _ _ =>
    obtain ⟨r, mem, linked⟩ := backs
    obtain ⟨s, sMem, same⟩ := related r mem
    exact ⟨s, sMem, (congrArg (links · c.entity target) same).trans linked⟩

theorem Checked.backs (checked : Checked d e) (wellFormed : d.WellFormed)
    (backs : d.Backs derived c) : e.Backs derived c := by
  refine backs.congr ?_ rfl fun r mem => ⟨r, checked.relationships ▸ mem, rfl⟩
  have names := congrArg (List.map (·.name)) (checked.attributesOf wellFormed c.entity)
  rwa [List.map_map, List.map_map] at names

end Backs

/-! ## Checking the rules again -/

section Checks

variable {d : Draft} {derived : List DerivedAttribute} (wellFormed : d.WellFormed)
  (apart : DerivedAttribute.Apart derived)

include wellFormed apart

/-- A rule on an attribute that is there under this name comes to a constraint on it. -/
theorem checkAttributeRule_of_backs {c : Constraint} {rule : AttributeRule} {attr : String}
    {isDerived : Bool} (demand : c.demand = .onAttribute rule attr isDerived)
    (backs : d.Backs derived c) (line : Nat) :
    ∃ e, d.checkAttributeRule derived c.entity line rule attr =
      .ok (⟨c.entity, .onAttribute rule attr isDerived, line⟩, e) := by
  obtain ⟨type, found, kind⟩ : ∃ type,
      ((d.attribute? c.entity attr).map fun a => (a.name, a.type)).or
        ((derived.find? fun a => a.entity == c.entity && Name.key a.name == Name.key attr).map
          fun a => (a.name, a.type)) = some (attr, type) ∧
      (d.attribute? c.entity attr).isNone = isDerived := by
    rw [Backs, demand] at backs
    cases isDerived with
    | false =>
      obtain ⟨a, mem, named⟩ := backs
      obtain ⟨aMem, owner⟩ := (mem_attributesOf wellFormed.placed).mp mem
      have there : (d.attribute? c.entity attr).isSome = true :=
        List.find?_isSome.mpr ⟨a, mem, by simp [named]⟩
      obtain ⟨b, found⟩ := Option.isSome_iff_exists.mp there
      obtain ⟨bMem, bOwner, key⟩ := of_attribute?_eq_some wellFormed.placed found
      have same : b = a := wellFormed.placed.attributeIndex.eq_of_index bMem aMem
        (wellFormed.apart.attributeKeys b bMem a aMem (bOwner.trans owner.symm)
          (key.trans (congrArg Name.key named.symm)))
      exact ⟨b.type, by simp [found, same, named], by simp [found]⟩
    | true =>
      obtain ⟨unspelled, a, mem, owner, named⟩ := backs
      have missing : d.attribute? c.entity attr = none :=
        List.find?_eq_none.mpr fun b bMem same => unspelled b bMem (eq_of_beq same)
      have there : (derived.find? fun b =>
          b.entity == c.entity && Name.key b.name == Name.key attr).isSome = true :=
        List.find?_isSome.mpr ⟨a, mem, by simp [owner, named]⟩
      obtain ⟨b, found⟩ := Option.isSome_iff_exists.mp there
      have spelled := List.find?_some found
      simp only [Bool.and_eq_true, beq_iff_eq] at spelled
      have bName : b.name = attr := named ▸ apart b (List.mem_of_find?_eq_some found) a mem
        (spelled.1.trans owner.symm) (named.symm ▸ spelled.2)
      exact ⟨b.type, by simp [missing, found, bName], by simp [missing]⟩
  simp only [checkAttributeRule, found, kind]
  exact ⟨_, rfl⟩

/-- A rule from which a constraint comes that is backed comes to this constraint. -/
theorem checkRule_of_backs {c : Constraint} (backs : d.Backs derived c) {rule : PendingRule}
    (same : rule.told = c.pending) :
    ∃ c' e, d.checkRule derived rule = .ok (c', e) ∧ c'.told = c.told := by
  obtain ⟨entity, demand⟩ := Prod.mk.inj same
  rw [checkRule, demand, entity]
  cases isDemand : c.demand with
  | onAttribute attrRule attr isDerived =>
    obtain ⟨e, checked⟩ := checkAttributeRule_of_backs wellFormed apart isDemand backs rule.line
    exact ⟨_, e, checked, by simp [Constraint.told, Constraint.unbacked, isDemand]⟩
  | minCount target count i =>
    rw [Backs, isDemand] at backs
    obtain ⟨r, found⟩ := Option.isSome_iff_exists.mp (List.find?_isSome.mpr backs)
    simp only [Demand.pending, checkCountRule, found]
    exact ⟨_, d, rfl, by simp [Constraint.told, Constraint.unbacked, isDemand]⟩

/-- Rules from which constraints come that are backed come to these constraints. -/
theorem checkRules_of_backs {constraints : List Constraint}
    (backs : ∀ c ∈ constraints, d.Backs derived c) {rules : List PendingRule}
    (same : rules.map PendingRule.told = constraints.map Constraint.pending)
    (inRange : ∀ rule ∈ rules, rule.Within d) :
    ∃ constraints' e, d.checkRules derived rules = .ok (constraints', e) ∧
      constraints'.map Constraint.told = constraints.map Constraint.told := by
  induction rules generalizing d constraints with
  | nil =>
    rw [List.map_eq_nil_iff.mp same.symm]
    exact ⟨[], d, rfl, rfl⟩
  | cons rule rules ih =>
    cases constraints with
    | nil => simp at same
    | cons c cs =>
      obtain ⟨first, rest⟩ := List.cons.inj same
      obtain ⟨c', e, one, isFirst⟩ :=
        checkRule_of_backs wellFormed apart (backs c List.mem_cons_self) first
      obtain ⟨entityBound, targetBound⟩ := inRange rule List.mem_cons_self
      have checked := (checkRule_spec wellFormed entityBound targetBound one).1
      obtain ⟨cs', e', others, areRest⟩ := ih checked.wellFormed
        (fun other mem => checked.backs wellFormed (backs other (List.mem_cons_of_mem _ mem))) rest
        (fun other mem => by
          rw [PendingRule.Within, checked.entities]
          exact inRange other (List.mem_cons_of_mem _ mem))
      refine ⟨c' :: cs', e', ?_, by rw [List.map_cons, List.map_cons, isFirst, areRest]⟩
      rw [checkRules_cons, one, Except.bind, others]
      rfl

end Checks

end Draft

/-- What the constraints of a compiled graph are about is there, under the names they give. -/
theorem backs_of_compile {text : String} {g : Graph} (compiles : compile text = .ok g) :
    ∀ c ∈ g.constraints, g.draft.Backs g.derived c :=
  fun c mem => Draft.backs_of_grounds (grounds_of_compile compiles c mem)
    (unspelled_of_compile compiles c mem)

end FactModel
