import FactModel.Proofs.Derivation.Dependence
import FactModel.Proofs.Derivation.Settling
import FactModel.Proofs.Graph.Checking
import FactModel.Proofs.Graph.Declaring

/-!
# Compiled graphs

All that is known of the draft of a text carries over to the graph that the text is compiled to,
and with it what settling comes to.  This is the form in which later modules use that a graph is
compiled.
-/

namespace FactModel

/-- A graph seen as a draft in which no rule is set aside. -/
def Graph.draft (g : Graph) : Draft :=
  { entities := g.entities, attributes := g.attributes, relationships := g.relationships,
    rules := [], subtypes := g.subtypeRules, diagnostics := g.warnings }

/-- The warnings of a graph with a given code. -/
def Graph.warningsOf (g : Graph) (code : DiagnosticCode) : List Diagnostic :=
  g.warnings.filter (·.finding.code == code)

/-- What is known of the graph of a document. -/
structure Compiled (doc : Document) (g : Graph) : Prop where
  wellFormed : g.draft.WellFormed
  introduced : ∃ heads stubs : List (String × Nat),
    g.draft.headings =
      heads.map (fun h => (h.1, true, h.2)) ++ stubs.map (fun h => (h.1, false, h.2)) ∧
    heads.map (·.1) = doc.entityNames ∧
    g.warningsOf .missingDeclaration =
      stubs.map fun h => { finding := .undeclared h.1, line := h.2 }
  constraints : ∀ c ∈ g.constraints, g.draft.InRange c
  acyclic : Derivation.cycle? g.entities.length g.relationships = none
  shared : Derivation.Shared g.entityName g.attributesOf g.entities.length g.relationships
    g.derived (g.warningsOf .shadowedDerivedAttribute)

namespace Derivation

/-- What a rule makes of an attribute is not looked at when attributes are derived. -/
theorem offered_of_unruled {l l' : List Attribute}
    (same : l.map Attribute.unruled = l'.map Attribute.unruled) :
    l.map Attribute.offered = l'.map Attribute.offered := by
  have offered := congrArg (List.map Attribute.offered) same
  rwa [List.map_map, List.map_map] at offered

/-- It does not matter for what is offered and selected which attributes are required. -/
theorem share_congr {names : Nat → String} {explicit explicit' : Nat → List Attribute}
    (same : ∀ v, (explicit v).map Attribute.unruled = (explicit' v).map Attribute.unruled)
    (derived : List DerivedAttribute) (rs : List Relationship) (v : Nat) :
    share names explicit derived rs v = share names explicit' derived rs v := by
  have offered (v : Nat) : (explicit v).map Attribute.offered =
      (explicit' v).map Attribute.offered := offered_of_unruled (same v)
  have keys := congrArg (List.map (Name.key ·.1)) (offered v)
  rw [List.map_map, List.map_map] at keys
  rw [share, share, offers, offers, candidates_eq_of_offered offered]
  exact congrArg (selectFree · _) keys

theorem Shared.congr {names : Nat → String} {explicit explicit' : Nat → List Attribute}
    {count : Nat} {relationships : List Relationship} {derived : List DerivedAttribute}
    {shadowed : List Diagnostic}
    (shared : Shared names explicit count relationships derived shadowed)
    (same : ∀ v, (explicit' v).map Attribute.unruled = (explicit v).map Attribute.unruled) :
    Shared names explicit' count relationships derived shadowed where
  inGraph := shared.inGraph
  selected := by
    intro v inGraph
    rw [shared.selected v inGraph, share_congr same]
  reported := by
    simp only [share_congr same]
    exact shared.reported

/-- All reports of settling are of one code. -/
theorem Shared.code_eq {names : Nat → String} {explicit : Nat → List Attribute}
    {count : Nat} {relationships : List Relationship} {derived : List DerivedAttribute}
    {shadowed : List Diagnostic}
    (shared : Shared names explicit count relationships derived shadowed) :
    ∀ note ∈ shadowed, note.finding.code = .shadowedDerivedAttribute := by
  intro note mem
  obtain ⟨v, -, reported⟩ := List.mem_flatMap.mp (shared.reported.mem_iff.mp mem)
  obtain ⟨d, -, rfl⟩ := List.mem_map.mp reported
  rfl

end Derivation

namespace Draft

open Arena

/-- Checks change attributes of no entity in any way that matters for deriving. -/
theorem Checked.attributesOf {d e : Draft} (checked : Checked d e) (wellFormed : d.WellFormed)
    (v : Nat) :
    (e.attributesOf v).map Attribute.unruled = (d.attributesOf v).map Attribute.unruled := by
  have shown (l : List Attribute) : (l.filter (·.entity == v)).map Attribute.unruled =
      (l.map Attribute.unruled).filter (·.entity == v) := by
    rw [List.filter_map]
    rfl
  rw [attributesOf_eq_filter checked.wellFormed.placed, attributesOf_eq_filter wellFormed.placed,
    shown, shown, checked.attributes]

/-- The counted diagnostics are the ones of two codes. -/
theorem filter_code_eq_of_counted {code : DiagnosticCode}
    (kind : code = .missingDeclaration ∨ code = .shadowedDerivedAttribute)
    (diagnostics : List Diagnostic) :
    diagnostics.filter (·.finding.code == code) =
      (counted diagnostics).filter (·.finding.code == code) := by
  rw [counted, List.filter_filter]
  refine List.filter_congr fun note _ => ?_
  rw [eq_comm, Bool.and_eq_left_iff_imp]
  intro same
  rw [Finding.isCounted, eq_of_beq same]
  rcases kind with rfl | rfl <;> rfl

theorem Checked.entityName {d e : Draft} (checked : Checked d e) : e.entityName = d.entityName := by
  funext v
  rw [Draft.entityName, checked.entities, Draft.entityName]

theorem ofDocument_spec {text : String} {doc : Document} (read : Document.parse text = .ok doc)
    {d : Draft} (drafted : ofDocument doc = .ok d) :
    d.WellFormed ∧ Introduced doc.entityNames d := by
  obtain ⟨declared, entered, attached⟩ := of_bind_eq_ok drafted
  cases attached
  have start : AllDeclared [] (empty doc.diagnostics) :=
    ⟨[], rfl, rfl, counted_diagnostics_of_parse read⟩
  obtain ⟨wellFormed, allDeclared⟩ := declared_all (wellFormed_empty _) start entered
  rw [Document.entityNames_of_parse read]
  exact attached_facts wellFormed allDeclared.introduced _

end Draft

/-- What settling comes to for a draft. -/
def Draft.settled (d : Draft) : Derivation.State :=
  Derivation.derive d.entities.length d.entityName d.attributesOf d.relationships

/-- The same is derived after checks. -/
theorem Draft.Checked.derived_settled {d e : Draft} (checked : Checked d e)
    (wellFormed : d.WellFormed) : e.settled.derived = d.settled.derived := by
  rw [settled, settled, checked.entities, checked.relationships, checked.entityName,
    Derivation.derive_eq_of_offered fun v =>
      Derivation.offered_of_unruled (checked.attributesOf wellFormed v)]

/-- A draft to which the reports of settling are added. -/
def Draft.withShadowed (d : Draft) : Draft :=
  { d with diagnostics := d.diagnostics ++ d.settled.shadowed }

/-- The steps by which a document becomes a graph. -/
theorem Graph.ofDocument_eq_ok {doc : Document} {g : Graph} (built : Graph.ofDocument doc = .ok g) :
    ∃ d e constraints, Draft.ofDocument doc = .ok d ∧
      Derivation.cycle? d.entities.length d.relationships = none ∧
      d.withShadowed.checkRules d.settled.derived d.rules = .ok (constraints, e) ∧
      g =
        { entities := e.checkSubtypes.2.entities
          attributes := e.checkSubtypes.2.attributes
          derived := d.settled.derived
          relationships := e.checkSubtypes.2.relationships
          constraints
          subtypeRules := e.checkSubtypes.1
          warnings := e.checkSubtypes.2.diagnostics
          unparsed := doc.unparsed } := by
  obtain ⟨d, drafted, built⟩ := of_bind_eq_ok built
  obtain ⟨⟨derived, d'⟩, derives, built⟩ := of_bind_eq_ok built
  obtain ⟨⟨constraints, e⟩, checks, built⟩ := of_bind_eq_ok built
  cases built
  unfold Draft.derive at derives
  split at derives
  · contradiction
  · next acyclic =>
    cases derives
    exact ⟨d, e, constraints, drafted, acyclic, checks, rfl⟩

/-- A draft without a circle whose rules are checked becomes a graph. -/
theorem Graph.ofDocument_of_checks {doc : Document} {d e : Draft} {constraints : List Constraint}
    (drafted : Draft.ofDocument doc = .ok d)
    (acyclic : Derivation.cycle? d.entities.length d.relationships = none)
    (checks : d.withShadowed.checkRules d.settled.derived d.rules = .ok (constraints, e)) :
    Graph.ofDocument doc = .ok
      { entities := e.checkSubtypes.2.entities
        attributes := e.checkSubtypes.2.attributes
        derived := d.settled.derived
        relationships := e.checkSubtypes.2.relationships
        constraints
        subtypeRules := e.checkSubtypes.1
        warnings := e.checkSubtypes.2.diagnostics
        unparsed := doc.unparsed } := by
  have derives : d.derive = .ok (d.settled.derived, d.withShadowed) := by
    rw [Draft.derive, acyclic]
    rfl
  rw [Graph.ofDocument, drafted]
  simp only [bind, Except.bind, derives]
  rw [show d.withShadowed.rules = d.rules from rfl, checks]
  rfl

/-- The checks that a draft passes on its way to a graph. -/
theorem Draft.checked_of_checkRules {text : String} {doc : Document}
    (read : Document.parse text = .ok doc) {d e : Draft} (drafted : Draft.ofDocument doc = .ok d)
    {constraints : List Constraint}
    (checks : d.withShadowed.checkRules d.settled.derived d.rules = .ok (constraints, e)) :
    d.withShadowed.WellFormed ∧ Draft.Checked d.withShadowed e ∧
      Draft.Checked e e.checkSubtypes.2 := by
  have wellFormed := (Draft.ofDocument_spec read drafted).1
  have shadowedWellFormed : d.withShadowed.WellFormed :=
    ⟨wellFormed.placed, wellFormed.apart, wellFormed.told, wellFormed.rules, wellFormed.subtypes⟩
  have rulesChecked :=
    (Draft.checkRules_spec shadowedWellFormed shadowedWellFormed.rules checks).1
  exact ⟨shadowedWellFormed, rulesChecked, (Draft.checkSubtypes_spec rulesChecked.wellFormed).1⟩

theorem Graph.compiled_of_parse {text : String} {doc : Document}
    (read : Document.parse text = .ok doc) {g : Graph} (built : Graph.ofDocument doc = .ok g) :
    Compiled doc g := by
  obtain ⟨d, e, constraints, drafted, acyclic, checks, rfl⟩ := Graph.ofDocument_eq_ok built
  obtain ⟨wellFormed, introduced⟩ := Draft.ofDocument_spec read drafted
  have shared : Derivation.Shared d.entityName d.attributesOf d.entities.length d.relationships
      d.settled.derived d.settled.shadowed :=
    Derivation.shared_derive (fun r mem => wellFormed.apart.relationshipIndex.getElem? mem)
      (fun r mem => by simpa using wellFormed.apart.ends r mem) acyclic
  obtain ⟨shadowedWellFormed, rulesChecked, subtypesChecked⟩ :=
    Draft.checked_of_checkRules read drafted checks
  have inRange := (Draft.checkRules_spec shadowedWellFormed shadowedWellFormed.rules checks).2
  have remaining := (Draft.checkSubtypes_spec rulesChecked.wellFormed).2
  have checked := rulesChecked.trans subtypesChecked
  obtain ⟨heads, stubs, order, names, reports⟩ := introduced
  have counts : Draft.counted e.checkSubtypes.2.diagnostics =
      stubs.map (fun h => { finding := .undeclared h.1, line := h.2 }) ++ d.settled.shadowed := by
    rw [checked.diagnostics, Draft.withShadowed, Draft.counted_append, reports,
      Draft.counted, List.filter_eq_self.mpr]
    intro note mem
    rw [Finding.isCounted, shared.code_eq note mem]
    rfl
  constructor
  · refine ⟨checked.wellFormed.placed, checked.wellFormed.apart, checked.wellFormed.told,
      by simp [Graph.draft], ?_⟩
    intro rule mem
    exact checked.wellFormed.subtypes rule (subtypesChecked.subtypes ▸ remaining mem)
  · refine ⟨heads, stubs, ?_, names, ?_⟩
    · rw [← order, Draft.headings, Draft.headings, Graph.draft, checked.entities]
      rfl
    · rw [Graph.warningsOf, Draft.filter_code_eq_of_counted (.inl rfl), counts, List.filter_append,
        List.filter_eq_self.mpr, List.filter_eq_nil_iff.mpr, List.append_nil]
      · intro note mem
        rw [shared.code_eq note mem]
        decide
      · intro note mem
        obtain ⟨h, -, rfl⟩ := List.mem_map.mp mem
        rfl
  · intro c mem
    exact subtypesChecked.inRange_iff.mpr (inRange c mem)
  · rw [checked.entities, checked.relationships]
    exact acyclic
  · have final : Derivation.Shared e.checkSubtypes.2.entityName e.checkSubtypes.2.attributesOf
        e.checkSubtypes.2.entities.length e.checkSubtypes.2.relationships d.settled.derived
        d.settled.shadowed := by
      rw [checked.entityName, checked.entities, checked.relationships]
      exact shared.congr (checked.attributesOf shadowedWellFormed)
    have shadowed : e.checkSubtypes.2.diagnostics.filter
        (·.finding.code == .shadowedDerivedAttribute) = d.settled.shadowed := by
      rw [Draft.filter_code_eq_of_counted (.inr rfl), counts, List.filter_append,
        List.filter_eq_nil_iff.mpr, List.filter_eq_self.mpr, List.nil_append]
      · intro note mem
        rw [shared.code_eq note mem]
        rfl
      · intro note mem
        obtain ⟨h, -, rfl⟩ := List.mem_map.mp mem
        simp [Finding.code]
    rw [Graph.warningsOf, shadowed]
    exact final

/-- The two steps by which a text compiles: it is read to a document, which has a graph. -/
theorem parse_of_compile {text : String} {g : Graph} (compiles : compile text = .ok g) :
    ∃ doc, Document.parse text = .ok doc ∧ Graph.ofDocument doc = .ok g := by
  obtain ⟨doc, read, built⟩ := of_bind_eq_ok compiles
  cases parsed : Document.parse text with
  | error e => simp [parsed, Except.mapError] at read
  | ok found =>
    cases built' : Graph.ofDocument doc with
    | error e => simp [built', Except.mapError] at built
    | ok graph =>
      simp only [parsed, Except.mapError, Except.ok.injEq] at read
      simp only [built', Except.mapError, Except.ok.injEq] at built
      subst read built
      exact ⟨found, rfl, built'⟩

/-- A text that compiles is read to a document, whose graph is what is known of it. -/
theorem compiled_of_compile {text : String} {g : Graph} (compiles : compile text = .ok g) :
    ∃ doc, Document.parse text = .ok doc ∧ Compiled doc g := by
  obtain ⟨doc, parsed, built⟩ := parse_of_compile compiles
  exact ⟨doc, parsed, Graph.compiled_of_parse parsed built⟩

/-- What a compiled graph has derived is what is derived from its attributes and relationships. -/
theorem derived_of_compile {text : String} {g : Graph} (compiles : compile text = .ok g) :
    g.derived = g.draft.settled.derived := by
  obtain ⟨doc, read, built⟩ := parse_of_compile compiles
  obtain ⟨d, e, constraints, drafted, -, checks, rfl⟩ := Graph.ofDocument_eq_ok built
  obtain ⟨wellFormed, rulesChecked, subtypesChecked⟩ :=
    Draft.checked_of_checkRules read drafted checks
  exact ((rulesChecked.trans subtypesChecked).derived_settled wellFormed).symm

/-- Whether a text compiles to a graph that passes a test. -/
def compilesTo (text : String) (test : Graph → Bool) : Bool :=
  match compile text with
  | .ok g => test g
  | .error _ => false

theorem of_compilesTo {text : String} {test : Graph → Bool} (passes : compilesTo text test = true) :
    ∃ g, compile text = .ok g ∧ test g = true := by
  unfold compilesTo at passes
  split at passes
  · next g compiles => exact ⟨g, compiles, passes⟩
  · contradiction

end FactModel
