import FactModel.Proofs.Bullet.Named
import FactModel.Proofs.Graph.Soundness

/-!
# Attributes are named

No attribute of a compiled graph is called by blanks alone: its name is one that a bullet states, or
the name of an entity to which a bullet relates another one.
-/

namespace FactModel

/-! ## Documents -/

theorem Outcome.named_of_ofLine {known : List String} {place : Outcome.Place} {number : Nat}
    {line : Line} {f : Fact} (read : Outcome.ofLine known place number line = .ok (.stated f)) :
    f.assertion.Named := by
  cases Outcome.comes_of_ofLine read with
  | stated owned classified => exact Bullet.named_of_classify classified

theorem Trace.named_ofLines {known : List String} {place : Outcome.Place} {ls : List (Nat × Line)}
    {number : Nat} {f : Fact}
    (mem : (number, Outcome.stated f) ∈ (Trace.ofLines known place ls).outcomes) :
    f.assertion.Named := by
  induction ls generalizing place with
  | nil => simp [Trace.ofLines] at mem
  | cons head rest ih =>
    obtain ⟨n, line⟩ := head
    unfold Trace.ofLines at mem
    cases read : Outcome.ofLine known place n line with
    | error failure => simp [read] at mem
    | ok outcome =>
      simp only [read] at mem
      rcases List.mem_cons.mp mem with here | later
      · cases here
        exact Outcome.named_of_ofLine read
      · exact ih later

theorem Document.exists_outcome_of_mem_facts {outcomes : List (Nat × Outcome)} {f : Fact}
    (mem : f ∈ Draft.facts (statementsOf outcomes)) : ∃ number, (number, .stated f) ∈ outcomes := by
  induction outcomes with
  | nil => simp [statementsOf, Draft.facts] at mem
  | cons head rest ih =>
    have later (mem : f ∈ Draft.facts (statementsOf rest)) :
        ∃ number, (number, .stated f) ∈ head :: rest := by
      obtain ⟨number, there⟩ := ih mem
      exact ⟨number, List.mem_cons_of_mem _ there⟩
    obtain ⟨number, outcome⟩ := head
    cases outcome with
    | stated fact =>
      rcases List.mem_cons.mp (show f ∈ fact :: Draft.facts (statementsOf rest) from mem)
        with rfl | inRest
      · exact ⟨number, List.mem_cons_self⟩
      · exact later inRest
    | _ => exact later mem

theorem Document.named_of_parse {text : String} {doc : Document}
    (read : Document.parse text = .ok doc) {f : Fact} (mem : f ∈ Draft.facts doc.statements) :
    f.assertion.Named := by
  simp only [Document.parse] at read
  split at read
  · contradiction
  · cases read
    obtain ⟨number, stated⟩ := exists_outcome_of_mem_facts mem
    exact Trace.named_ofLines stated

/-! ## Drafts -/

namespace Draft

open Arena

/-- No attribute is called by blanks alone. -/
def Named (d : Draft) : Prop :=
  ∀ a ∈ d.attributes, Name.Nonblank a.name

theorem attributes_resolve (d : Draft) (line : Nat) (name : String) :
    (d.resolve line name).2.attributes = d.attributes := by
  rcases resolve_cases d line name with ⟨e, -, resolved⟩ | ⟨-, resolved⟩
  · rw [resolved]
  · rw [resolved]
    rfl

/-- A name is resolved to an entity that it spells. -/
theorem key_entityName_resolve {d : Draft} (wellFormed : d.WellFormed) (line : Nat)
    (name : String) :
    Name.key ((d.resolve line name).2.entityName (d.resolve line name).1) = Name.key name := by
  rcases resolve_cases d line name with ⟨e, found, resolved⟩ | ⟨-, resolved⟩
  · obtain ⟨atPlace, same⟩ := of_entity?_eq_some wellFormed.placed found
    rw [resolved, Draft.entityName, atPlace]
    exact same
  · rw [resolved]
    simp [Draft.entityName, Draft.warn, Draft.addEntity]

/-- A relationship adds at most one attribute, called like its target when it leads to one. -/
theorem Named.attachRelationship {d : Draft} (named : d.Named) (line source : Nat) {target : Nat}
    {cardinality : Cardinality}
    (nonblank : cardinality.isSingle = true → Name.Nonblank (d.entityName target)) :
    (d.attachRelationship line source target cardinality).Named := by
  unfold Draft.attachRelationship
  extract_lets again sourceName targetName d₁
  split
  · exact named
  · split
    · next single =>
      split
      · exact named
      · intro a mem
        rcases List.mem_append.mp mem with old | new
        · exact named a old
        · rw [List.mem_singleton.mp new]
          exact nonblank single
    · exact named

theorem Named.attachAttribute {d : Draft} (named : d.Named) (wellFormed : d.WellFormed)
    {name : String} (nonblank : Name.Nonblank name) (line entity : Nat)
    (declaredType sample : Option String) (identifying : Bool) :
    (d.attachAttribute line entity name declaredType sample identifying).Named := by
  obtain ⟨n, noted, attached⟩ :=
    attachAttribute_cases wellFormed line entity name declaredType sample identifying
  have nNamed : n.Named := by
    obtain ⟨notes, rfl, -⟩ := noted
    exact named
  generalize d.attachAttribute line entity name declaredType sample identifying = e at attached ⊢
  cases attached with
  | added a fresh owner isName =>
    intro b mem
    rcases List.mem_append.mp mem with old | new
    · exact nNamed b old
    · rw [List.mem_singleton.mp new]
      exact isName ▸ nonblank
  | changed old new found index owner isName =>
    intro b mem
    rcases List.mem_or_eq_of_mem_set mem with before | rfl
    · exact nNamed b before
    · rw [isName]
      exact named old (of_attribute?_eq_some wellFormed.placed found).1
  | kept => exact nNamed

theorem Named.attach {d : Draft} (named : d.Named) (wellFormed : d.WellFormed) {f : Fact}
    (fNamed : f.assertion.Named) : (d.attach f).Named := by
  have found := (wellFormed.resolve f.line f.entity).1
  have attributes := attributes_resolve d f.line f.entity
  unfold Draft.attach
  generalize d.resolve f.line f.entity = resolved at found attributes ⊢
  obtain ⟨entity, d₁⟩ := resolved
  have named₁ : d₁.Named := by
    rw [Draft.Named, attributes]
    exact named
  -- Resolving another name changes no attribute.
  have again (name : String) : (d₁.resolve f.line name).2.Named := by
    rw [Draft.Named, attributes_resolve]
    exact named₁
  cases assertion : f.assertion with
  | hasAttribute name declaredType sample identifying =>
    rw [assertion] at fNamed
    exact named₁.attachAttribute found fNamed f.line entity declaredType sample identifying
  | relatedTo target cardinality =>
    rw [assertion] at fNamed
    have spelled := key_entityName_resolve found f.line target
    refine (again target).attachRelationship f.line entity fun single => ?_
    exact fun blank => fNamed single (spelled.symm.trans blank)
  | obeys rule =>
    cases rule with
    | minCount target count => exact again target
    | _ => exact named₁
  | isA base condition =>
    match condition with
    | none => exact again base
    | some (.hasAttribute name) => exact again base
    | some (.related target count) =>
      intro a mem
      refine again base a ?_
      rwa [← attributes_resolve _ f.line target]

theorem Named.attach_all {d : Draft} (named : d.Named) (wellFormed : d.WellFormed)
    {facts : List Fact} (factsNamed : ∀ f ∈ facts, f.assertion.Named) :
    (facts.foldl Draft.attach d).Named := by
  induction facts generalizing d with
  | nil => exact named
  | cons f facts ih =>
    exact ih (named.attach wellFormed (factsNamed f List.mem_cons_self)) (wellFormed.attach f)
      fun other mem => factsNamed other (List.mem_cons_of_mem _ mem)

theorem named_of_ofDocument {text : String} {doc : Document}
    (read : Document.parse text = .ok doc) {d : Draft} (drafted : ofDocument doc = .ok d) :
    d.Named := by
  obtain ⟨declared, entered, attached⟩ := of_bind_eq_ok drafted
  cases attached
  have start : AllDeclared [] (empty doc.diagnostics) :=
    ⟨[], rfl, rfl, counted_diagnostics_of_parse read⟩
  have wellFormed := (declared_all (wellFormed_empty _) start entered).1
  have nothing : declared.attributes = [] := by
    rw [declared_rest entered]
    rfl
  have named : declared.Named := by
    rw [Draft.Named, nothing]
    simp
  exact named.attach_all wellFormed fun f mem => Document.named_of_parse read mem

end Draft

/-! ## Graphs -/

/-- No attribute of a compiled graph is called by blanks alone. -/
theorem nonblank_of_compile {text : String} {g : Graph} (compiles : compile text = .ok g) :
    ∀ a ∈ g.attributes, Name.Nonblank a.name := by
  obtain ⟨doc, read, built⟩ := parse_of_compile compiles
  obtain ⟨d, e, constraints, drafted, -, checks, rfl⟩ := Graph.ofDocument_eq_ok built
  obtain ⟨-, rulesChecked, subtypesChecked⟩ := Draft.checked_of_checkRules read drafted checks
  have checked := rulesChecked.trans subtypesChecked
  intro a mem
  have shown := List.mem_map_of_mem (f := Attribute.unruled) mem
  rw [checked.attributes] at shown
  obtain ⟨b, bMem, same⟩ := List.mem_map.mp shown
  have names : b.name = a.name := congrArg (·.name) same
  rw [← names]
  exact Draft.named_of_ofDocument read drafted b bMem

/-- The target of a derivable relationship is named, since its name is that of an attribute. -/
theorem Compiled.nonblank_target {doc : Document} {g : Graph} (compiled : Compiled doc g)
    (named : ∀ a ∈ g.attributes, Name.Nonblank a.name) {r : Relationship}
    (mem : r ∈ g.relationships) (derivable : r.derivable = true) :
    Name.Nonblank (g.entityName r.target) := by
  obtain ⟨a, aMem, -, key⟩ := compiled.wellFormed.told.derivable r mem derivable
  rw [Name.Nonblank, g.entityName_eq, ← key]
  exact named a aMem

end FactModel
