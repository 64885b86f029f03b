import FactModel.Proofs.Graph.Interchange
import FactModel.Proofs.Graph.Named

/-!
# Rules that name nothing

A further rule about entities of a graph that finds there no attribute of its name, or no relationship
by which to count, rejects the document.  Nothing that was found before is lost: the rejection carries
all that the graph warns of, in the same order, but for the reports on subtypes, which are made after
all rules are checked.
-/

namespace FactModel

/-! ## What is refused -/

/-- The attribute that a rule names. -/
def Rule.attr? : Rule → Option String
  | .notNull attr | .inPast attr | .like attr _ => some attr
  | .minCount .. => none

/-- A rule on an entity of a graph is refused with an error.  Either the entity has no attribute of the
name that the rule gives, neither an explicit nor a derived one, or the rule counts rows of another
entity, from which no relationship to one leads here and to which none to many leads from here. -/
inductive Graph.Refuses (g : Graph) (e : Entity) (line : Nat) : Rule → CompileError → Prop where
  | unknown {rule : Rule} {attr : String} (names : rule.attr? = some attr)
      (missing : g.hasAttribute e.index attr = false) :
    Refuses g e line rule (.unknownAttribute e.name attr line)
  | unlinked {target : String} {count : Nat} {t : Entity} (mem : t ∈ g.entities)
      (spells : Name.key t.name = Name.key target)
      (apart : ∀ r ∈ g.relationships,
        ¬(r.source = t.index ∧ r.target = e.index ∧ r.derivable = true) ∧
          ¬(r.source = e.index ∧ r.target = t.index ∧ r.cardinality = .oneToMany)) :
    Refuses g e line (.minCount target count) (.unlinkedCount e.name count t.name line)

/-- The spelling that a name has among others. -/
def Name.spelledAmong (names : List String) (name : String) : String :=
  (names.find? (Name.key · == Name.key name)).getD name

/-- A document with one further fact. -/
def Document.adding (doc : Document) (f : Fact) : Document :=
  { doc with statements := doc.statements ++ [.fact f] }

/-- The report on a fact that makes an entity, which has one of some names, a subtype of itself. -/
def Fact.ownSubtype? (names : List String) (f : Fact) : Option Diagnostic :=
  match f.assertion with
  | .isA base _ =>
    if Name.key f.entity = Name.key base then
      some { finding := .ownSubtype (Name.spelledAmong names f.entity), line := f.line }
    else none
  | _ => none

/-- The reports on the facts of a document that make an entity of its graph a subtype of itself, in
the order of the facts. -/
def Document.ownSubtypes (doc : Document) (g : Graph) : List Diagnostic :=
  (Draft.facts doc.statements).filterMap (Fact.ownSubtype? (g.entities.map (·.name)))

namespace Draft

open Arena

/-! ## Checking with further rules set aside -/

/-- A draft with other rules set aside. -/
def awaiting (d : Draft) (rules : List PendingRule) : Draft :=
  { d with rules }

section Checking

variable (derived : List DerivedAttribute) (d : Draft) (waiting : List PendingRule)

theorem checkAttributeRule_awaiting (entity line : Nat) (rule : AttributeRule) (name : String) :
    (d.awaiting waiting).checkAttributeRule derived entity line rule name =
      (d.checkAttributeRule derived entity line rule name).map fun s =>
        (s.1, s.2.awaiting waiting) := by
  unfold checkAttributeRule
  extract_lets explicit? derived? found? next explicit' found' next'
  have sameFound : found? = found' := rfl
  have sameExplicit : explicit? = explicit' := rfl
  have sameNext : next = next'.awaiting waiting := by
    simp only [next, next', sameExplicit]
    clear_value explicit'
    cases rule <;> cases explicit' <;> rfl
  clear_value found? next explicit? explicit' found' next'
  subst sameFound sameNext
  cases found? with
  | none => rfl
  | some found =>
    rw [sameExplicit]
    simp only [Except.map, Except.ok.injEq, Prod.mk.injEq, true_and]
    split <;> rfl

/-- Checking a rule does not look at the rules that are set aside. -/
theorem checkRule_awaiting (rule : PendingRule) :
    (d.awaiting waiting).checkRule derived rule =
      (d.checkRule derived rule).map fun s => (s.1, s.2.awaiting waiting) := by
  unfold checkRule
  cases rule.demand with
  | onAttribute demand attr => exact checkAttributeRule_awaiting ..
  | minCount target count =>
    unfold checkCountRule
    simp only [awaiting]
    split <;> rfl

theorem checkRules_awaiting (rules : List PendingRule) :
    (d.awaiting waiting).checkRules derived rules =
      (d.checkRules derived rules).map fun s => (s.1, s.2.awaiting waiting) := by
  induction rules generalizing d with
  | nil => rfl
  | cons rule rules ih =>
    rw [checkRules_cons, checkRules_cons, checkRule_awaiting]
    cases d.checkRule derived rule with
    | error rejection => rfl
    | ok s =>
      simp only [Except.map, Except.bind, ih]
      cases s.2.checkRules derived rules <;> rfl

/-- The last of some rules is checked in the draft that the others leave. -/
theorem checkRules_concat (rules : List PendingRule) (rule : PendingRule) :
    d.checkRules derived (rules ++ [rule]) = (d.checkRules derived rules).bind fun s =>
      (s.2.checkRule derived rule).map fun last => (s.1 ++ [last.1], last.2) := by
  induction rules generalizing d with
  | nil =>
    rw [List.nil_append, checkRules_cons, checkRules]
    simp only [Except.bind]
    cases d.checkRule derived rule <;> rfl
  | cons first rules ih =>
    rw [List.cons_append, checkRules_cons, checkRules_cons]
    cases d.checkRule derived first with
    | error rejection => rfl
    | ok s =>
      simp only [Except.bind, ih]
      cases s.2.checkRules derived rules with
      | error rejection => rfl
      | ok t =>
        simp only
        cases t.2.checkRule derived rule <;> rfl

end Checking

/-! ## Subtypes of themselves -/

theorem spelledAmong_eq {names : List String} (keys : (names.map Name.key).Nodup) {i : Nat}
    (bound : i < names.length) {name : String} (same : Name.key (nameAt names i) = Name.key name) :
    Name.spelledAmong names name = nameAt names i := by
  have atPlace : nameAt names i = names[i] := by
    simp [nameAt, bound]
  rw [Name.spelledAmong, find?_of_nodup_map keys (atPlace ▸ List.getElem_mem bound) same,
    Option.getD_some]

/-- The reports on subtypes that are their own bases, where the entities have certain names. -/
def ownReports (names : List String) (rules : List SubtypeRule) : List Diagnostic :=
  (rules.filter fun r => r.subtype == r.base).map fun r =>
    { finding := .ownSubtype (nameAt names r.subtype), line := r.line }

theorem ownSubtypes_eq (d : Draft) : d.ownSubtypes = ownReports d.names d.subtypes := by
  simp only [ownSubtypes, ownReports, entityName_eq]

theorem ownReports_append (names : List String) (rules more : List SubtypeRule) :
    ownReports names (rules ++ more) = ownReports names rules ++ ownReports names more := by
  rw [ownReports, List.filter_append, List.map_append, ← ownReports, ← ownReports]

/-- Names that are added behind others leave these in place. -/
theorem nameAt_of_grown {names more : List String} (grown : names <+: more) {i : Nat}
    (bound : i < names.length) : nameAt more i = nameAt names i := by
  obtain ⟨rest, rfl⟩ := grown
  simp only [nameAt, List.getElem?_append_left bound]

/-- A draft with further entities and the same subtypes. -/
structure Grown (d e : Draft) : Prop where
  names : d.names <+: e.names
  subtypes : e.subtypes = d.subtypes

theorem Grown.trans {d e f : Draft} (first : Grown d e) (second : Grown e f) : Grown d f :=
  ⟨first.names.trans second.names, second.subtypes.trans first.subtypes⟩

theorem grown_resolve (d : Draft) (line : Nat) (name : String) :
    Grown d (d.resolve line name).2 := by
  rcases resolve_cases d line name with ⟨e, -, resolved⟩ | ⟨-, resolved⟩
  · rw [resolved]
    exact ⟨List.prefix_rfl, rfl⟩
  · rw [resolved]
    exact ⟨by simp [names, warn, addEntity], rfl⟩

theorem grown_addAttribute (d : Draft) (a : Attribute) : Grown d (d.addAttribute a) :=
  ⟨by rw [names_addAttribute], rfl⟩

theorem grown_attachAttribute {d : Draft} (wellFormed : d.WellFormed) (line entity : Nat)
    (name : String) (declaredType sample : Option String) (identifying : Bool) :
    Grown d (d.attachAttribute line entity name declaredType sample identifying) := by
  obtain ⟨n, ⟨notes, rfl, -⟩, attached⟩ :=
    attachAttribute_cases wellFormed line entity name declaredType sample identifying
  generalize d.attachAttribute line entity name declaredType sample identifying = e at attached ⊢
  cases attached with
  | added a =>
    have added := grown_addAttribute { d with diagnostics := d.diagnostics ++ notes } a
    exact ⟨added.names, added.subtypes⟩
  | changed old new => exact ⟨List.prefix_rfl, rfl⟩
  | kept => exact ⟨List.prefix_rfl, rfl⟩

theorem grown_attachRelationship (d : Draft) (line source target : Nat)
    (cardinality : Cardinality) : Grown d (d.attachRelationship line source target cardinality) := by
  unfold Draft.attachRelationship
  extract_lets again sourceName targetName d₁
  have kept : Grown d d₁ := ⟨List.prefix_rfl, rfl⟩
  split
  · exact ⟨List.prefix_rfl, rfl⟩
  · split
    · split
      · exact ⟨kept.names, kept.subtypes⟩
      · exact kept.trans (grown_addAttribute d₁ _)
    · exact kept

theorem grown_attachRule (d : Draft) (line entity : Nat) (rule : Rule) :
    Grown d (d.attachRule line entity rule) := by
  cases rule with
  | minCount target count =>
    have grows := grown_resolve d line target
    exact ⟨grows.names, grows.subtypes⟩
  | _ => exact ⟨List.prefix_rfl, rfl⟩

theorem grown_predicateOf (d : Draft) (line : Nat) (condition : Option Condition) :
    Grown d (d.predicateOf line condition).2 := by
  match condition with
  | none => exact ⟨List.prefix_rfl, rfl⟩
  | some (.hasAttribute name) => exact ⟨List.prefix_rfl, rfl⟩
  | some (.related target count) => exact grown_resolve d line target

/-- What a fact sets aside about subtypes. -/
inductive SetsAside (d e : Draft) (f : Fact) : Prop where
  | nothing (other : ∀ base condition, f.assertion ≠ .isA base condition) (grown : Grown d e)
  | subtype {base : String} {condition : Option Condition} (isA : f.assertion = .isA base condition)
      {grown : Draft} (grows : Grown d grown) (rule : SubtypeRule)
      (added : e = { grown with subtypes := grown.subtypes ++ [rule] }) (line : rule.line = f.line)
      (subtype : Name.key (nameAt grown.names rule.subtype) = Name.key f.entity)
      (base : Name.key (nameAt grown.names rule.base) = Name.key base)

theorem setsAside_attach {d : Draft} (wellFormed : d.WellFormed) (f : Fact) :
    SetsAside d (d.attach f) f := by
  have found := (wellFormed.resolve f.line f.entity)
  have spelled := key_entityName_resolve wellFormed f.line f.entity
  have grows := grown_resolve d f.line f.entity
  unfold Draft.attach
  generalize d.resolve f.line f.entity = resolved at found spelled grows ⊢
  obtain ⟨entity, d₁⟩ := resolved
  cases assertion : f.assertion with
  | hasAttribute name declaredType sample identifying =>
    exact .nothing (by simp [assertion])
      (grows.trans (grown_attachAttribute found.1 f.line entity name declaredType sample identifying))
  | relatedTo target cardinality =>
    exact .nothing (by simp [assertion])
      ((grows.trans (grown_resolve d₁ f.line target)).trans (grown_attachRelationship ..))
  | obeys rule =>
    exact .nothing (by simp [assertion]) (grows.trans (grown_attachRule d₁ f.line entity rule))
  | isA base condition =>
    have baseGrows := grown_resolve d₁ f.line base
    have baseFound := found.1.resolve f.line base
    have baseSpelled := key_entityName_resolve found.1 f.line base
    rw [entityName_eq] at spelled baseSpelled
    have further := grown_predicateOf (d₁.resolve f.line base).2 f.line condition
    refine .subtype assertion ((grows.trans baseGrows).trans further) _ rfl rfl ?_ ?_
    · have bound := found.2.1
      rw [← length_names] at bound
      exact (congrArg Name.key (nameAt_of_grown (baseGrows.trans further).names bound)).trans
        spelled
    · have bound := baseFound.2.1
      rw [← length_names] at bound
      exact (congrArg Name.key (nameAt_of_grown further.names bound)).trans baseSpelled

/-- A fact that makes an entity a subtype of itself is the one that is reported for it. -/
theorem ownReports_attach {d : Draft} (wellFormed : d.WellFormed) (f : Fact) {names : List String}
    (grown : (d.attach f).names <+: names) (keys : (names.map Name.key).Nodup) :
    ownReports names (d.attach f).subtypes =
      ownReports names d.subtypes ++ (f.ownSubtype? names).toList := by
  have inRange := (wellFormed.attach f).subtypes
  cases setsAside_attach wellFormed f with
  | nothing other grows =>
    have silent : f.ownSubtype? names = none := by
      unfold Fact.ownSubtype?
      split
      · next isA => exact absurd isA (other _ _)
      · rfl
    rw [grows.subtypes, silent, Option.toList_none, List.append_nil]
  | @subtype baseName condition isA whole grows rule added line subtype base =>
    have subtypes : (d.attach f).subtypes = d.subtypes ++ [rule] := by
      rw [added, ← grows.subtypes]
    have same : (d.attach f).names = whole.names := by
      rw [added]
      rfl
    obtain ⟨subtypeBound, baseBound, -⟩ := inRange rule (by simp [subtypes])
    rw [← length_names] at subtypeBound baseBound
    rw [← same, ← nameAt_of_grown grown subtypeBound] at subtype
    rw [← same, ← nameAt_of_grown grown baseBound] at base
    have longer := grown.length_le
    have own : rule.subtype = rule.base ↔ Name.key f.entity = Name.key baseName := by
      rw [← subtype, ← base]
      constructor
      · rintro isOwn
        rw [isOwn]
      · exact eq_of_key_nameAt keys (by omega) (by omega)
    rw [subtypes, ownReports_append]
    congr 1
    by_cases isOwn : rule.subtype = rule.base
    · have spelled := spelledAmong_eq keys (by omega) subtype
      rw [isOwn] at spelled
      simp [ownReports, Fact.ownSubtype?, isA, isOwn, own.mp isOwn, spelled, line]
    · simp [ownReports, Fact.ownSubtype?, isA, isOwn, mt own.mpr isOwn]

/-- The reports on subtypes after some facts are the ones before and one for each fact that makes an
entity a subtype of itself. -/
theorem ownReports_attach_all {d : Draft} (wellFormed : d.WellFormed) (facts : List Fact) :
    (facts.foldl attach d).WellFormed ∧ d.names <+: (facts.foldl attach d).names ∧
      ∀ names, (facts.foldl attach d).names <+: names → (names.map Name.key).Nodup →
        ownReports names (facts.foldl attach d).subtypes =
          ownReports names d.subtypes ++ facts.filterMap (Fact.ownSubtype? names) := by
  induction facts generalizing d with
  | nil => exact ⟨wellFormed, List.prefix_rfl, by simp⟩
  | cons f facts ih =>
    obtain ⟨stays, grows, reports⟩ := ih (wellFormed.attach f)
    have first : d.names <+: (d.attach f).names := by
      cases setsAside_attach wellFormed f with
      | nothing other grown => exact grown.names
      | subtype isA grown rule added =>
        rw [added]
        exact grown.names
    refine ⟨stays, first.trans grows, ?_⟩
    intro names grown keys
    rw [List.foldl_cons, reports names grown keys,
      ownReports_attach wellFormed f (grows.trans grown) keys, List.append_assoc]
    congr 1
    cases found : f.ownSubtype? names <;> simp [found]

/-- The draft of any document is well formed, and its subtypes that are their own bases are those of
the facts that say so. -/
theorem ownSubtypes_of_ofDocument {doc : Document} {d : Draft} (drafted : ofDocument doc = .ok d) :
    d.WellFormed ∧
      d.ownSubtypes = (facts doc.statements).filterMap (Fact.ownSubtype? d.names) := by
  obtain ⟨declared, entered, attached⟩ := of_bind_eq_ok drafted
  cases attached
  have wellFormed := (knows_of_declared (wellFormed_empty _) entered).1
  have none : declared.subtypes = [] := by
    rw [declared_rest entered]
    rfl
  obtain ⟨stays, -, reports⟩ := ownReports_attach_all wellFormed (facts doc.statements)
  refine ⟨stays, ?_⟩
  rw [ownSubtypes_eq, reports _ List.prefix_rfl stays.apart.keys, none]
  rfl

/-! ## A further rule -/

theorem facts_concat (statements : List Statement) (f : Fact) :
    facts (statements ++ [.fact f]) = facts statements ++ [f] := by
  rw [facts, List.filterMap_append, ← facts]
  rfl

theorem declarations_concat (statements : List Statement) (f : Fact) :
    declarations (statements ++ [.fact f]) = declarations statements := by
  rw [declarations, List.filterMap_append, ← declarations, List.filterMap_cons_none rfl,
    List.filterMap_nil, List.append_nil]

/-- A further fact is attached last. -/
theorem ofDocument_adding {doc : Document} {d : Draft} (drafted : ofDocument doc = .ok d) (f : Fact) :
    ofDocument (doc.adding f) = .ok (d.attach f) := by
  obtain ⟨declared, entered, attached⟩ := of_bind_eq_ok drafted
  cases attached
  unfold ofDocument Document.adding
  rw [facts_concat, declarations_concat, entered]
  simp only [bind, Except.bind, List.foldl_append]
  rfl

theorem resolve_of_mem {d : Draft} (wellFormed : d.WellFormed) {e : Entity} (mem : e ∈ d.entities)
    {name : String} (spells : Name.key e.name = Name.key name) (line : Nat) :
    d.resolve line name = (e.index, d) := by
  have keys : (d.entities.map (Name.key ·.name)).Nodup := by
    have nodup := wellFormed.apart.keys
    rwa [names, List.map_map] at nodup
  have found : d.entity? name = some e := find?_of_nodup_map keys mem spells
  rw [resolve, found]

theorem entityName_of_mem {d : Draft} (wellFormed : d.WellFormed) {e : Entity}
    (mem : e ∈ d.entities) : d.entityName e.index = e.name := by
  rw [entityName, wellFormed.placed.entityIndex.getElem? mem]
  rfl

/-- The check of a rule on an attribute fails where there is none of its name. -/
theorem checkAttributeRule_eq_error {d : Draft} {derived : List DerivedAttribute} {entity : Nat}
    {name : String} (explicit : d.attribute? entity name = none)
    (taken : ∀ a ∈ derived, a.entity = entity → Name.key a.name ≠ Name.key name) (line : Nat)
    (rule : AttributeRule) :
    d.checkAttributeRule derived entity line rule name =
      .error { error := .unknownAttribute (d.entityName entity) name line
               diagnostics := d.diagnostics } := by
  have none : (derived.find? fun a => a.entity == entity && Name.key a.name == Name.key name) =
      none := by
    rw [List.find?_eq_none]
    intro a mem
    simpa using taken a mem
  unfold checkAttributeRule
  extract_lets explicit? derived? found?
  have nothing : found? = .none := by
    simp [found?, explicit?, derived?, explicit, none]
  rw [nothing]

/-- The check of a count fails where no relationship links the entities. -/
theorem checkCountRule_eq_error {d : Draft} {entity target : Nat}
    (unlinked : ∀ r ∈ d.relationships, links r entity target = false) (line count : Nat) :
    d.checkCountRule entity line target count =
      .error { error := .unlinkedCount (d.entityName entity) count (d.entityName target) line
               diagnostics := d.diagnostics } := by
  have none : d.relationships.find? (links · entity target) = none := by
    rw [List.find?_eq_none]
    intro r mem
    simp [unlinked r mem]
  rw [checkCountRule, none]

/-- What deriving comes to where no entities have each other in a circle. -/
theorem derive_eq_ok {d : Draft}
    (acyclic : Derivation.cycle? d.entities.length d.relationships = none) :
    d.derive = .ok (d.settled.derived, d.withShadowed) := by
  rw [derive, acyclic]
  rfl

/-- The graph that a checked draft becomes. -/
theorem toGraph_eq (d : Draft) (derived : List DerivedAttribute) (constraints : List Constraint)
    (unparsed : List Unparsed) : d.toGraph derived constraints unparsed =
      { entities := d.entities
        attributes := d.attributes
        derived
        relationships := d.relationships
        constraints
        subtypeRules := d.subtypes.filter fun r => r.subtype != r.base
        warnings := d.diagnostics ++ d.ownSubtypes
        unparsed } := by
  rw [toGraph, checkSubtypes_eq]
  rfl

section Refused

variable {d e : Draft} {derived : List DerivedAttribute} {constraints : List Constraint}
  {unparsed : List Unparsed} {x : Entity} {line : Nat} {rule : Rule} {error : CompileError}

/-- A rule that the graph of a draft refuses is set aside with its names resolved, and its check fails
when those before it have passed. -/
theorem setAside_of_refuses (wellFormed : d.WellFormed) (checked : e.WellFormed)
    (same : e.entities = d.entities) (mem : x ∈ d.entities)
    (refused : (e.toGraph derived constraints unparsed).Refuses x line rule error) :
    ∃ demand, d.attachRule line x.index rule = d.setAside line x.index demand ∧
      e.checkRule derived ⟨x.index, demand, line⟩ =
        .error { error, diagnostics := e.diagnostics } := by
  rw [toGraph_eq] at refused
  have name {y : Entity} (there : y ∈ d.entities) : e.entityName y.index = y.name :=
    entityName_of_mem checked (same ▸ there)
  cases refused with
  | @unknown _ attr names missing =>
    obtain ⟨notExplicit, notDerived⟩ := Bool.or_eq_false_iff.mp missing
    have explicit : e.attribute? x.index attr = none := Option.not_isSome_iff_eq_none.mp
      (Bool.eq_false_iff.mp notExplicit)
    have taken : ∀ a ∈ derived, a.entity = x.index → Name.key a.name ≠ Name.key attr := by
      intro a mem owner
      have none := Option.not_isSome_iff_eq_none.mp (Bool.eq_false_iff.mp notDerived)
      have differs := List.find?_eq_none.mp none a (List.mem_filter.mpr ⟨mem, by simp [owner]⟩)
      simpa using differs
    have fails := checkAttributeRule_eq_error explicit taken line
    rw [name mem] at fails
    cases rule with
    | minCount target count => cases names
    | notNull =>
      cases names
      exact ⟨_, rfl, fails _⟩
    | inPast =>
      cases names
      exact ⟨_, rfl, fails _⟩
    | like _ pattern =>
      cases names
      exact ⟨_, rfl, fails _⟩
  | @unlinked target count t tMem spells apart =>
    change t ∈ e.entities at tMem
    rw [same] at tMem
    have unlinked (r : Relationship) (mem : r ∈ e.relationships) :
        links r x.index t.index = false := by
      rw [Bool.eq_false_iff]
      simp only [links, ne_eq, Bool.or_eq_true, Bool.and_eq_true, beq_iff_eq]
      rintro (⟨⟨source, target⟩, derivable⟩ | ⟨⟨source, target⟩, many⟩)
      · exact (apart r mem).1 ⟨source, target, derivable⟩
      · exact (apart r mem).2 ⟨source, target, many⟩
    have fails := checkCountRule_eq_error unlinked line count
    rw [name mem, name tMem] at fails
    refine ⟨.minCount t.index count, ?_, fails⟩
    rw [attachRule, resolve_of_mem wellFormed tMem spells]

end Refused

end Draft

namespace Graph

/-- A rule that nothing in a graph answers to rejects the document that has it besides, with the line
of the rule.  The rejection carries what the graph warns of, in order, but for the reports on subtypes
of themselves. -/
theorem rejects_of_refuses {doc : Document} {g : Graph} (built : ofDocument doc = .ok g) {f : Fact}
    {rule : Rule} (isRule : f.assertion = .obeys rule) {e : Entity} (mem : e ∈ g.entities)
    (about : Name.key e.name = Name.key f.entity) {error : CompileError}
    (refused : g.Refuses e f.line rule error) :
    ∃ diagnostics, ofDocument (doc.adding f) = .error { error, diagnostics } ∧
      error.line? = some f.line ∧ g.warnings = diagnostics ++ doc.ownSubtypes g := by
  obtain ⟨d, c, constraints, drafted, acyclic, checks, rfl⟩ := ofDocument_eq_ok built
  obtain ⟨wellFormed, own⟩ := Draft.ownSubtypes_of_ofDocument drafted
  have shadowed : d.withShadowed.WellFormed := wellFormed.noting d.settled.shadowed
  have checked := (Draft.checkRules_spec shadowed shadowed.rules checks).1
  have entities : c.entities = d.entities := checked.entities
  change e ∈ (c.toGraph d.settled.derived constraints doc.unparsed).entities at mem
  change (c.toGraph d.settled.derived constraints doc.unparsed).Refuses e f.line rule error
    at refused
  change ∃ diagnostics, _ ∧ _ ∧ (c.toGraph d.settled.derived constraints doc.unparsed).warnings =
    diagnostics ++ doc.ownSubtypes (c.toGraph d.settled.derived constraints doc.unparsed)
  have inDraft : e ∈ d.entities := by
    rw [Draft.toGraph_eq] at mem
    exact entities ▸ mem
  obtain ⟨demand, aside, fails⟩ :=
    Draft.setAside_of_refuses wellFormed checked.wellFormed entities inDraft refused
  have attached : d.attach f = d.setAside f.line e.index demand := by
    rw [Draft.attach, Draft.resolve_of_mem wellFormed inDraft about, isRule]
    exact aside
  refine ⟨c.diagnostics, ?_, ?_, ?_⟩
  · have derives : (d.setAside f.line e.index demand).derive = .ok (d.settled.derived,
        d.withShadowed.awaiting (d.rules ++ [⟨e.index, demand, f.line⟩])) :=
      Draft.derive_eq_ok acyclic
    have ends : (d.withShadowed.awaiting (d.rules ++ [⟨e.index, demand, f.line⟩])).checkRules
        d.settled.derived (d.rules ++ [⟨e.index, demand, f.line⟩]) =
          .error { error, diagnostics := c.diagnostics } := by
      rw [Draft.checkRules_awaiting, Draft.checkRules_concat, checks]
      simp only [Except.bind, fails, Except.map]
    unfold ofDocument
    rw [Draft.ofDocument_adding drafted f, attached]
    simp only [bind, Except.bind, derives]
    rw [show (d.withShadowed.awaiting (d.rules ++ [⟨e.index, demand, f.line⟩])).rules =
      d.rules ++ [⟨e.index, demand, f.line⟩] from rfl, ends]
  · cases refused <;> rfl
  · have sameNames : c.names = d.names := by
      rw [Draft.names, entities, Draft.names]
    have sameSubtypes : c.subtypes = d.subtypes := checked.subtypes
    rw [Draft.toGraph_eq]
    change c.diagnostics ++ c.ownSubtypes = _
    rw [Draft.ownSubtypes_eq, sameNames, sameSubtypes, ← Draft.ownSubtypes_eq, own, ← sameNames]
    rfl

end Graph

/-! ## An example -/

/-- A document about orders of which a bullet was not understood, and in which a region is not declared,
a status is to be in the past, and orders are a subtype of themselves. -/
def Document.flawed : Document where
  statements := [
    .declaration ⟨1, "**Order**", "Order", ""⟩,
    .fact ⟨2, "has a Status", "Order", "Order", .hasAttribute "Status" none none false⟩,
    .fact ⟨3, "is an order", "Order", "Order", .isA "order" none⟩,
    .fact ⟨4, "has one Region", "Order", "Order", .relatedTo "Region" .manyToOne⟩,
    .fact ⟨5, "the Status must be in the past", "Order", "Order", .obeys (.inPast "Status")⟩]
  unparsed := [⟨6, "is nice", "Order"⟩]
  diagnostics := [⟨.unrecognized "Order" "is nice", 6⟩]
  entityNames := ["Order"]

/-- A rule on an attribute that orders do not have. -/
def Fact.onTotal : Fact :=
  ⟨7, "must have a Total", "Order", "ORDER", .obeys (.notNull "Total")⟩

/-- A rule that counts regions, of which an order has only one. -/
def Fact.onRegions : Fact :=
  ⟨8, "must have at least 2 regions", "Order", "order", .obeys (.minCount "region" 2)⟩

namespace Graph

theorem rejects_flawed :
    let found : List Diagnostic :=
      [⟨.unrecognized "Order" "is nice", 6⟩, ⟨.undeclared "Region", 4⟩,
        ⟨.notADate "Order" "Status" .string, 5⟩]
    (∃ g, ofDocument .flawed = .ok g ∧ g.warnings = found ++ [⟨.ownSubtype "Order", 3⟩]) ∧
      ofDocument (Document.flawed.adding .onTotal) =
        .error { error := .unknownAttribute "Order" "Total" 7, diagnostics := found } ∧
      ofDocument (Document.flawed.adding .onRegions) =
        .error { error := .unlinkedCount "Order" 2 "Region" 8, diagnostics := found } := by
  intro found
  have tests : (ofDocument .flawed).toOption.any (fun g =>
      (g.entities.map fun e => (e.index, e.name)) == [(0, "Order"), (1, "Region")] &&
        g.warnings == found ++ [⟨.ownSubtype "Order", 3⟩] &&
        Document.flawed.ownSubtypes g == [⟨.ownSubtype "Order", 3⟩] &&
        g.hasAttribute 0 "Total" == false &&
        (g.relationships.map fun r => (r.source, r.cardinality)) == [(0, .manyToOne)]) = true := by
    decide +kernel
  cases built : ofDocument .flawed with
  | error rejection => simp [built, Except.toOption] at tests
  | ok g =>
    simp only [built, Except.toOption, Option.any_some, Bool.and_eq_true, beq_iff_eq] at tests
    obtain ⟨⟨⟨⟨entities, warnings⟩, own⟩, missing⟩, relationships⟩ := tests
    obtain ⟨order, orderMem, isOrder⟩ : ∃ e ∈ g.entities, (e.index, e.name) = (0, "Order") :=
      List.mem_map.mp (entities ▸ by simp)
    obtain ⟨region, regionMem, isRegion⟩ : ∃ e ∈ g.entities, (e.index, e.name) = (1, "Region") :=
      List.mem_map.mp (entities ▸ by simp)
    obtain ⟨orderIndex, orderName⟩ := Prod.mk.inj isOrder
    obtain ⟨regionIndex, regionName⟩ := Prod.mk.inj isRegion
    have about (f : Fact) (same : Name.key "Order" = Name.key f.entity) :
        Name.key order.name = Name.key f.entity := orderName ▸ same
    refine ⟨⟨g, rfl, warnings⟩, ?_, ?_⟩
    · obtain ⟨diagnostics, rejected, -, split⟩ := rejects_of_refuses built
        (rfl : Fact.onTotal.assertion = _) orderMem (about _ (by decide +kernel))
        (.unknown rfl (orderIndex ▸ missing))
      rw [warnings, own] at split
      rw [rejected, List.append_cancel_right split, orderName]
      rfl
    · have apart : ∀ r ∈ g.relationships, r.source = 0 ∧ r.cardinality = .manyToOne := by
        intro r mem
        have there := List.mem_map_of_mem (f := fun r => (r.source, r.cardinality)) mem
        rw [relationships, List.mem_singleton] at there
        exact Prod.mk.inj there
      obtain ⟨diagnostics, rejected, -, split⟩ := rejects_of_refuses built
        (rfl : Fact.onRegions.assertion = _) orderMem (about _ (by decide +kernel))
        (.unlinked regionMem (regionName ▸ by decide +kernel) fun r mem => by
          simp [apart r mem, orderIndex, regionIndex])
      rw [warnings, own] at split
      rw [rejected, List.append_cancel_right split, orderName, regionName]
      rfl

end Graph

end FactModel
