import FactModel.Proofs.Graph.Ruling
import FactModel.Proofs.Graph.Commuting

/-!
# Rules about different entities commute

To check a rule reads the attributes of its entity, the outlines of what is derived, and whether two
entities are linked; it changes the attributes of its entity.  Rules may therefore be checked in any
order that keeps the rules about each entity in theirs: the same constraints are put on it, but for
the relationships that back them.
-/

namespace FactModel

/-- A constraint regardless of the relationship that backs it. -/
def Constraint.unbacked (c : Constraint) : Constraint :=
  match c.demand with
  | .onAttribute .. => c
  | .minCount target count _ => { c with demand := .minCount target count 0 }

@[simp]
theorem Constraint.entity_unbacked (c : Constraint) : c.unbacked.entity = c.entity := by
  unfold unbacked
  split <;> rfl

/-- What a rule sees of a derived attribute. -/
def DerivedAttribute.outline (a : DerivedAttribute) : Nat × String × SemanticType :=
  (a.entity, a.name, a.type)

/-- A rule is about entities of a draft. -/
def PendingRule.Within (d : Draft) (rule : PendingRule) : Prop :=
  rule.entity < d.entities.length ∧
    ∀ target count, rule.demand = .minCount target count → target < d.entities.length

theorem PendingRule.Within.congr {rule : PendingRule} {d e : Draft} (within : rule.Within d)
    (same : d.heads = e.heads) : rule.Within e := by
  rw [PendingRule.Within, ← Draft.length_heads, ← same, Draft.length_heads]
  exact within

namespace Draft

/-- A check keeps the relationships. -/
theorem Checked.related {d e : Draft} (checked : Checked d e) : RelatedAlike d e := by
  intro j
  rw [portion, portion, checked.relationships]

/-! ## One rule -/

section Rule

variable {i : Nat} {d e : Draft} {derived derived' : List DerivedAttribute}

/-- What a rule finds of a derived attribute depends on the outlines alone. -/
theorem derived?_congr (outlines : derived.map (·.outline) = derived'.map (·.outline)) (i : Nat)
    (name : String) :
    (derived.find? fun a => a.entity == i && Name.key a.name == Name.key name).map
        (fun a => (a.name, a.type)) =
      (derived'.find? fun a => a.entity == i && Name.key a.name == Name.key name).map
        (fun a => (a.name, a.type)) := by
  have shown (derived : List DerivedAttribute) :
      (derived.find? fun a => a.entity == i && Name.key a.name == Name.key name).map
          (fun a => (a.name, a.type)) =
        ((derived.map (·.outline)).find? fun o =>
          o.1 == i && Name.key o.2.1 == Name.key name).map (·.2) := by
    rw [List.find?_map, Option.map_map]
    rfl
  rw [shown, shown, outlines]

/-- A rule on an attribute fails in both of two drafts, or comes to the same constraint. -/
theorem Alike.checkAttributeRule (alike : Alike i d e)
    (outlines : derived.map (·.outline) = derived'.map (·.outline)) (line : Nat)
    (rule : AttributeRule) (name : String) :
    (∃ c d' e', d.checkAttributeRule derived i line rule name = .ok (c, d') ∧
      e.checkAttributeRule derived' i line rule name = .ok (c, e') ∧ InStep i d e d' e') ∨
    ∃ x y, d.checkAttributeRule derived i line rule name = .error x ∧
      e.checkAttributeRule derived' i line rule name = .error y := by
  have looks := derived?_congr outlines i name
  unfold Draft.checkAttributeRule
  extract_lets dExplicit dDerived dFound dNext eExplicit eDerived eFound eNext
  have explicit : (dExplicit = none ∧ eExplicit = none) ∨
      ∃ a j, dExplicit = some a ∧ eExplicit = some { a with index := j } :=
    find?_cases (alike.attribute? name)
  have inStep : InStep i d e dNext eNext := by
    rcases explicit with ⟨left, right⟩ | ⟨a, j, left, right⟩
    · simp only [dNext, eNext, left, right]
      exact alike.inStep
    · obtain ⟨mem, owner, -⟩ := of_attribute?_eq_some alike.left.placed left
      have mem' := (of_attribute?_eq_some alike.right.placed right).1
      cases rule with
      | notNull =>
        simp only [dNext, eNext, left, right]
        exact alike.inStep.setAttribute alike.left alike.right mem mem' { a with required := true }
          rfl rfl owner
      | inPast => exact alike.inStep
      | like pattern => exact alike.inStep
  have found : dFound = eFound := by
    have sameDerived : dDerived.map (fun a => (a.name, a.type)) =
        eDerived.map fun a => (a.name, a.type) := looks
    rcases explicit with ⟨left, right⟩ | ⟨a, j, left, right⟩
    · simp only [dFound, eFound, left, right, sameDerived]
    · simp only [dFound, eFound, left, right]
      rfl
  have kind : dExplicit.isNone = eExplicit.isNone := by
    rcases explicit with ⟨left, right⟩ | ⟨a, j, left, right⟩
    · rw [left, right]
    · rw [left, right]
      rfl
  have nextNames : dNext.entityName i = eNext.entityName i :=
    congrFun (entityName_congr (inStep.heads.1.trans (alike.heads.trans inStep.heads.2.symm))) i
  clear_value dFound eFound dExplicit eExplicit dNext eNext
  subst found
  cases dFound with
  | none => exact .inr ⟨_, _, rfl, rfl⟩
  | some found =>
    obtain ⟨attr, type⟩ := found
    refine .inl ⟨_, _, _, rfl, by rw [kind], ?_⟩
    rw [nextNames]
    split
    · exact inStep.warn line _
    · exact inStep

/-- Entities that are linked in a draft are linked in another one. -/
theorem RelatedAlike.exists_link (related : RelatedAlike d e) {target : Nat} {r : Relationship}
    (found : d.relationships.find? (links · i target) = some r) :
    ∃ s, e.relationships.find? (links · i target) = some s := by
  obtain ⟨s, mem, same⟩ := related.exists_eq (List.mem_of_find?_eq_some found)
  have linked : links r i target = true := (List.find?_some found :)
  rw [show links r i target = links s i target from (congrArg (links · i target) same :)] at linked
  exact Option.isSome_iff_exists.mp (List.find?_isSome.mpr ⟨s, mem, linked⟩)

/-- A rule fails in both of two drafts, or comes to the same constraint in both, but for the
relationship that backs it. -/
theorem inStep_checkRule {rule : PendingRule} (alike : Alike rule.entity d e)
    (related : RelatedAlike d e) (outlines : derived.map (·.outline) = derived'.map (·.outline)) :
    (∃ c c' d' e', d.checkRule derived rule = .ok (c, d') ∧
      e.checkRule derived' rule = .ok (c', e') ∧ InStep rule.entity d e d' e' ∧
      c.unbacked = c'.unbacked ∧ c.entity = rule.entity) ∨
    ∃ x y, d.checkRule derived rule = .error x ∧ e.checkRule derived' rule = .error y := by
  unfold checkRule
  split
  · next demand attr _ =>
    rcases alike.checkAttributeRule outlines rule.line demand attr with
      ⟨c, d', e', left, right, inStep⟩ | ⟨x, y, left, right⟩
    · exact .inl ⟨c, c, d', e', left, right, inStep, rfl,
        (checkAttributeRule_spec alike.left left).2.1⟩
    · exact .inr ⟨x, y, left, right⟩
  · next target count _ =>
    unfold checkCountRule
    cases found : d.relationships.find? (links · rule.entity target) with
    | none =>
      have missing : e.relationships.find? (links · rule.entity target) = none := by
        rw [Option.eq_none_iff_forall_ne_some]
        intro s there
        have back : RelatedAlike e d := fun j => (related j).symm
        obtain ⟨r, here⟩ := back.exists_link there
        exact Option.some_ne_none r (here.symm.trans found)
      rw [missing]
      exact .inr ⟨_, _, rfl, rfl⟩
    | some r =>
      obtain ⟨s, there⟩ := related.exists_link found
      rw [there]
      exact .inl ⟨_, _, d, e, rfl, rfl, alike.inStep, rfl, rfl⟩

end Rule

/-! ## Runs -/

/-- The state in which rules are checked: what is derived, the constraints so far, and the draft. -/
structure Checking where
  derived : List DerivedAttribute
  constraints : List Constraint
  draft : Draft

namespace Checking

/-- Checks one more rule. -/
def step (s : Checking) (rule : PendingRule) : Except Rejection Checking :=
  (s.draft.checkRule s.derived rule).map fun checked =>
    { s with constraints := s.constraints ++ [checked.1], draft := checked.2 }

/-- To check rules one by one is to check all of them. -/
theorem foldlM_step (s : Checking) (rules : List PendingRule) :
    rules.foldlM step s = (s.draft.checkRules s.derived rules).map fun checked =>
      { s with constraints := s.constraints ++ checked.1, draft := checked.2 } := by
  induction rules generalizing s with
  | nil => simp [Draft.checkRules, Except.map, pure, Except.pure]
  | cons rule rules ih =>
    rw [List.foldlM_cons, checkRules_cons, step]
    cases one : s.draft.checkRule s.derived rule with
    | error e => rfl
    | ok first =>
      simp only [Except.map, bind, Except.bind, ih]
      cases first.2.checkRules s.derived rules with
      | error e => rfl
      | ok later => simp

/-- Two states are the same to the rules of an entity. -/
structure Alike (i : Nat) (s t : Checking) : Prop where
  drafts : Draft.Alike i s.draft t.draft
  related : RelatedAlike s.draft t.draft
  derived : s.derived.map (·.outline) = t.derived.map (·.outline)
  constraints : (s.constraints.filter (·.entity == i)).map Constraint.unbacked =
    (t.constraints.filter (·.entity == i)).map Constraint.unbacked

/-- Checking rules about different entities, in drafts with the entities of a given one. -/
theorem separate_step (first : Draft) : Separate PendingRule.entity step
    (fun i s t => Alike i s t ∧ s.draft.heads = first.heads) (fun s => s.draft.diagnostics)
    (PendingRule.Within first) where
  symm := fun ⟨alike, heads⟩ =>
    ⟨⟨⟨alike.drafts.right, alike.drafts.left, alike.drafts.heads.symm, alike.drafts.portion.symm⟩,
      fun j => (alike.related j).symm, alike.derived.symm, alike.constraints.symm⟩,
      alike.drafts.heads.symm.trans heads⟩
  trans := fun ⟨one, heads⟩ ⟨other, _⟩ =>
    ⟨⟨⟨one.drafts.left, other.drafts.right, one.drafts.heads.trans other.drafts.heads,
      one.drafts.portion.trans other.drafts.portion⟩,
      fun j => (one.related j).trans (other.related j), one.derived.trans other.derived,
      one.constraints.trans other.constraints⟩, heads⟩
  reads := by
    rintro rule s t within ⟨alike, heads⟩
    rcases inStep_checkRule alike.drafts alike.related alike.derived with
      ⟨c, c', d', e', left, right, inStep, same, owner⟩ | ⟨x, y, left, right⟩
    · have withinLeft := within.congr heads.symm
      have withinRight := withinLeft.congr alike.drafts.heads
      have checkedLeft := (checkRule_spec alike.drafts.left withinLeft.1 withinLeft.2 left).1
      have checkedRight := (checkRule_spec alike.drafts.right withinRight.1 withinRight.2 right).1
      have newHeads : d'.heads = e'.heads :=
        inStep.heads.1.trans (alike.drafts.heads.trans inStep.heads.2.symm)
      have owner' : c'.entity = rule.entity := by
        rw [← owner, ← c.entity_unbacked, same, c'.entity_unbacked]
      refine .inl ⟨_, _, by rw [step, left]; rfl, by rw [step, right]; rfl, ⟨⟨?_, ?_⟩, inStep.notes⟩⟩
      · refine ⟨⟨checkedLeft.wellFormed, checkedRight.wellFormed, newHeads, inStep.portion⟩, ?_,
          alike.derived, ?_⟩
        · intro j
          rw [← checkedLeft.related j, alike.related j, checkedRight.related j]
        · simp [owner, owner', same, alike.constraints]
      · exact inStep.heads.1.trans heads
    · exact .inr ⟨x, y, by rw [step, left]; rfl, by rw [step, right]; rfl⟩
  keeps := by
    rintro rule i s s' within other ⟨alike, heads⟩ stepped
    have own : Draft.Alike rule.entity s.draft s.draft :=
      ⟨alike.drafts.left, alike.drafts.left, rfl, rfl⟩
    rcases inStep_checkRule own alike.related alike.derived with
      ⟨c, _, d', _, left, -, inStep, -, owner⟩ | ⟨x, -, left, -⟩
    · rw [step, left] at stepped
      cases stepped
      have within := within.congr heads.symm
      have checked := (checkRule_spec alike.drafts.left within.1 within.2 left).1
      refine ⟨⟨⟨alike.drafts.left, checked.wellFormed, inStep.heads.1.symm,
        (inStep.others i other).1.symm⟩, checked.related, alike.derived, ?_⟩, heads⟩
      have apart : ¬c.entity = i := by
        rw [owner]
        exact other.symm
      simp [apart]
    · rw [step, left] at stepped
      contradiction

end Checking

/-- Regrouped drafts, and the constraints that were found to go with them. -/
def RegroupedWith (s t : List Constraint × Draft) : Prop :=
  Regrouped s.2 t.2 ∧ ∀ i, (s.1.filter (·.entity == i)).map Constraint.unbacked =
    (t.1.filter (·.entity == i)).map Constraint.unbacked

/-- In regrouped drafts the rules fail or come to the same constraints on each entity, but for the
relationships that back them. -/
theorem Regrouped.checkRules {d e : Draft} (regrouped : Regrouped d e)
    {derived derived' : List DerivedAttribute}
    (outlines : derived.map (·.outline) = derived'.map (·.outline)) :
    EndAlike RegroupedWith (d.checkRules derived d.rules) (e.checkRules derived' e.rules) := by
  have alike (i : Nat) : Checking.Alike i ⟨derived, [], d⟩ ⟨derived', [], e⟩ :=
    ⟨⟨regrouped.left, regrouped.right, regrouped.heads, regrouped.portion i⟩, regrouped.related,
      outlines, rfl⟩
  have ends := (Checking.separate_step d).run_reorder regrouped.left.rules
    (fun i => congrArg Portion.rules (regrouped.portion i))
    ⟨fun i => ⟨alike i, rfl⟩, regrouped.diagnostics⟩
  rw [Checking.foldlM_step, Checking.foldlM_step] at ends
  refine ends.of_map.imp fun s t _ _ agrees => ⟨?_, fun i => (agrees.1 i).1.constraints⟩
  have drafts (i : Nat) := (agrees.1 i).1.drafts
  exact ⟨(drafts 0).left, (drafts 0).right, (drafts 0).heads, fun i => (drafts i).portion, agrees.2⟩

/-! ## Subtypes -/

/-- The reports on entities that are declared subtypes of themselves. -/
def ownSubtypes (d : Draft) : List Diagnostic :=
  (d.subtypes.filter fun r => r.subtype == r.base).map fun r =>
    { finding := .ownSubtype (d.entityName r.subtype), line := r.line }

theorem checkSubtypes_eq (d : Draft) : d.checkSubtypes =
    (d.subtypes.filter fun r => r.subtype != r.base, d.noting d.ownSubtypes) := by
  have noted (rules : List SubtypeRule) (d : Draft) :
      rules.foldl (fun d r => d.warn r.line (.ownSubtype (d.entityName r.subtype))) d =
        d.noting (rules.map fun r =>
          { finding := .ownSubtype (d.entityName r.subtype), line := r.line }) := by
    induction rules generalizing d with
    | nil => simp [noting]
    | cons rule rules ih =>
      rw [List.foldl_cons, ih]
      simp only [noting, warn, List.append_assoc]
      rfl
  rw [checkSubtypes, noted]
  rfl

theorem Regrouped.noting {d e : Draft} (regrouped : Regrouped d e) {notes notes' : List Diagnostic}
    (same : notes.Perm notes') : Regrouped (d.noting notes) (e.noting notes') :=
  ⟨regrouped.left.noting notes, regrouped.right.noting notes', regrouped.heads, regrouped.portion,
    regrouped.diagnostics.append same⟩

/-- Lists with the same elements about each entity are the same but for their order. -/
theorem perm_of_filter_eq {α : Type} [DecidableEq α] {key : α → Nat} {l l' : List α}
    (same : ∀ i, l.filter (key · == i) = l'.filter (key · == i)) : l.Perm l' := by
  rw [List.perm_iff_count]
  intro a
  have shown (l : List α) : l.count a = (l.filter (key · == key a)).count a :=
    (List.count_filter (by simp)).symm
  rw [shown, same, ← shown]

/-- In regrouped drafts the same subtypes remain, and the same reports are made. -/
theorem Regrouped.checkSubtypes {d e : Draft} (regrouped : Regrouped d e) :
    Regrouped d.checkSubtypes.2 e.checkSubtypes.2 ∧
      ∀ i, d.checkSubtypes.1.filter (·.subtype == i) =
        e.checkSubtypes.1.filter (·.subtype == i) := by
  have subtypes (i : Nat) :
      d.subtypes.filter (·.subtype == i) = e.subtypes.filter (·.subtype == i) :=
    congrArg Portion.subtypes (regrouped.portion i)
  rw [checkSubtypes_eq, checkSubtypes_eq]
  constructor
  · refine regrouped.noting ?_
    rw [ownSubtypes, ownSubtypes, entityName_congr regrouped.heads]
    exact ((perm_of_filter_eq subtypes).filter _).map _
  · intro i
    rw [List.filter_filter, List.filter_filter]
    simp only [Bool.and_comm]
    rw [← List.filter_filter, ← List.filter_filter, subtypes]

end Draft

end FactModel
