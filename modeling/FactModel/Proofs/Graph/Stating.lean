import FactModel.Proofs.Document.Describing
import FactModel.Proofs.Graph.Compiling

/-!
# What a draft states

Besides being well formed, a draft says nothing that was not stated: an undeclared entity has no
description, a description is one that was read, and the attributes are what their statements made
them.
-/

namespace FactModel

/-- What is told of an entity by its header. -/
def Entity.outline (e : Entity) : String × String × Bool :=
  (e.name, e.description, e.declared)

namespace Draft

open Arena

/-- Undeclared entities have no description, descriptions can stand in a header, and all attributes
are as they were stated. -/
structure Stated (d : Draft) : Prop where
  stubs : ∀ e ∈ d.entities, e.declared = false → e.description = ""
  described : ∀ e ∈ d.entities, Describable e.description
  attributes : ∀ a ∈ d.attributes, a.Stated

theorem Stated.congr {d e : Draft} (stated : d.Stated)
    (outlines : e.entities.map Entity.outline = d.entities.map Entity.outline)
    (attributes : ∀ a ∈ e.attributes, a ∈ d.attributes ∨ a.Stated) : e.Stated := by
  have exists_same {x : Entity} (mem : x ∈ e.entities) :
      ∃ y ∈ d.entities, y.description = x.description ∧ y.declared = x.declared := by
    have shown := List.mem_map_of_mem (f := Entity.outline) mem
    rw [outlines] at shown
    obtain ⟨y, yMem, same⟩ := List.mem_map.mp shown
    simp only [Entity.outline, Prod.mk.injEq] at same
    exact ⟨y, yMem, same.2⟩
  refine ⟨?_, ?_, fun a mem => (attributes a mem).elim (stated.attributes a) id⟩
  · intro x mem undeclared
    obtain ⟨y, yMem, description, declared⟩ := exists_same mem
    rw [← description]
    exact stated.stubs y yMem (declared.trans undeclared)
  · intro x mem
    obtain ⟨y, yMem, description, -⟩ := exists_same mem
    exact description ▸ stated.described y yMem

theorem outlines_addAttribute (d : Draft) (a : Attribute) :
    (d.addAttribute a).entities.map Entity.outline = d.entities.map Entity.outline := by
  apply map_modify_of_eq
  intro e
  rfl

theorem Stated.addAttribute {d : Draft} (stated : d.Stated) {a : Attribute} (aStated : a.Stated) :
    (d.addAttribute a).Stated := by
  apply stated.congr (outlines_addAttribute d a)
  intro b mem
  rcases List.mem_append.mp mem with old | new
  · exact .inl old
  · rw [List.mem_singleton.mp new]
    exact .inr ⟨aStated.optional, aStated.guessed, aStated.bare⟩

theorem Stated.addStub {d : Draft} (stated : d.Stated) (name : String) (line : Nat) :
    (d.addEntity name "" false line).Stated where
  stubs := by
    intro e mem undeclared
    rcases List.mem_append.mp mem with old | new
    · exact stated.stubs e old undeclared
    · rw [List.mem_singleton.mp new]
  described := by
    intro e mem
    rcases List.mem_append.mp mem with old | new
    · exact stated.described e old
    · rw [List.mem_singleton.mp new]
      exact .empty
  attributes := stated.attributes

theorem Stated.resolve {d : Draft} (stated : d.Stated) (line : Nat) (name : String) :
    (d.resolve line name).2.Stated := by
  rcases resolve_cases d line name with ⟨e, -, resolved⟩ | ⟨-, resolved⟩
  · rw [resolved]
    exact stated
  · rw [resolved]
    have added := stated.addStub name line
    exact ⟨added.stubs, added.described, added.attributes⟩

theorem Stated.attachAttribute {d : Draft} (stated : d.Stated) (wellFormed : d.WellFormed)
    (line entity : Nat) (name : String) (declaredType sample : Option String)
    (identifying : Bool) :
    (d.attachAttribute line entity name declaredType sample identifying).Stated := by
  obtain ⟨n, noted, attached⟩ :=
    attachAttribute_cases wellFormed line entity name declaredType sample identifying
  have nStated : n.Stated := by
    obtain ⟨notes, rfl, -⟩ := noted
    exact ⟨stated.stubs, stated.described, stated.attributes⟩
  generalize d.attachAttribute line entity name declaredType sample identifying = e at attached ⊢
  cases attached with
  | added a fresh owner named type plain alone aStated => exact nStated.addAttribute aStated
  | changed old new found index owner named type plain oldPlain alone newStated =>
    have oldMem := (of_attribute?_eq_some wellFormed.placed found).1
    refine nStated.congr rfl ?_
    intro b mem
    rcases List.mem_or_eq_of_mem_set mem with before | rfl
    · exact .inl before
    · exact .inr (newStated (stated.attributes old oldMem))
  | kept => exact nStated

theorem Stated.attachRelationship {d : Draft} (stated : d.Stated) (line source target : Nat)
    (cardinality : Cardinality) :
    (d.attachRelationship line source target cardinality).Stated := by
  have kept {e : Draft} (entities : e.entities = d.entities) (attributes : e.attributes = d.attributes) :
      e.Stated := by
    apply stated.congr (by rw [entities])
    rw [attributes]
    exact fun a mem => .inl mem
  unfold Draft.attachRelationship
  extract_lets again sourceName targetName d₁
  split
  · exact kept rfl rfl
  · split
    · split
      · exact kept rfl rfl
      · exact (kept (e := d₁) rfl rfl).addAttribute ⟨rfl, by simp, fun _ => rfl⟩
    · exact kept rfl rfl

/-- A fact leaves all that is stated as it is stated. -/
theorem Stated.attach {d : Draft} (stated : d.Stated) (wellFormed : d.WellFormed) (f : Fact) :
    (d.attach f).Stated := by
  have entityFound := (wellFormed.resolve f.line f.entity).1
  have entityStated := stated.resolve f.line f.entity
  unfold Draft.attach
  generalize d.resolve f.line f.entity = resolved at entityFound entityStated ⊢
  obtain ⟨entity, d₁⟩ := resolved
  cases f.assertion with
  | hasAttribute name declaredType sample identifying =>
    exact entityStated.attachAttribute entityFound f.line entity name declaredType sample
      identifying
  | relatedTo target cardinality =>
    exact (entityStated.resolve f.line target).attachRelationship f.line entity _ cardinality
  | obeys rule =>
    cases rule with
    | minCount target count =>
      have found := entityStated.resolve f.line target
      exact ⟨found.stubs, found.described, found.attributes⟩
    | _ => exact ⟨entityStated.stubs, entityStated.described, entityStated.attributes⟩
  | isA base condition =>
    have found := entityStated.resolve f.line base
    match condition with
    | none => exact ⟨found.stubs, found.described, found.attributes⟩
    | some (.hasAttribute name) => exact ⟨found.stubs, found.described, found.attributes⟩
    | some (.related target count) =>
      have again := found.resolve f.line target
      exact ⟨again.stubs, again.described, again.attributes⟩

theorem Stated.attach_all {d : Draft} (stated : d.Stated) (wellFormed : d.WellFormed)
    (facts : List Fact) : (facts.foldl Draft.attach d).Stated := by
  induction facts generalizing d with
  | nil => exact stated
  | cons f facts ih => exact ih (stated.attach wellFormed f) (wellFormed.attach f)

/-- Between the declarations and the facts every entity has its header, and nothing is attached. -/
theorem AllDeclared.stated {declared : List String} {d : Draft}
    (allDeclared : AllDeclared declared d) (described : ∀ e ∈ d.entities, Describable e.description)
    (nothing : d.attributes = []) : d.Stated where
  stubs := by
    intro e mem undeclared
    obtain ⟨heads, order, -⟩ := allDeclared
    have isHead : (e.name, e.declared, e.line) ∈ d.headings := List.mem_map_of_mem mem
    rw [order] at isHead
    obtain ⟨h, -, same⟩ := List.mem_map.mp isHead
    rw [Prod.mk.injEq, Prod.mk.injEq, undeclared] at same
    exact absurd same.2.1 (by decide)
  described := described
  attributes := by simp [nothing]

/-- Declarations keep what is described so that it can stand in a header. -/
theorem describable_of_declared {d e : Draft} {declarations : List Declaration}
    (entered : declarations.foldlM declare d = .ok e)
    (each : ∀ s ∈ declarations, Describable s.description)
    (described : ∀ x ∈ d.entities, Describable x.description) :
    ∀ x ∈ e.entities, Describable x.description := by
  induction declarations generalizing d with
  | nil =>
    cases entered
    exact described
  | cons s declarations ih =>
    rw [List.foldlM_cons] at entered
    obtain ⟨next, first, later⟩ := of_bind_eq_ok entered
    refine ih later (fun other mem => each other (List.mem_cons_of_mem _ mem)) fun x mem => ?_
    have here := each s List.mem_cons_self
    unfold declare at first
    split at first
    · cases first
      rcases List.mem_append.mp mem with old | new
      · exact described x old
      · rw [List.mem_singleton.mp new]
        exact here
    · next old found =>
      split at first
      · contradiction
      · cases first
        rcases List.mem_or_eq_of_mem_set mem with before | rfl
        · exact described x before
        · split
          · exact here
          · exact described old (List.mem_of_find?_eq_some found)

theorem stated_of_ofDocument {text : String} {doc : Document}
    (read : Document.parse text = .ok doc) {d : Draft} (drafted : ofDocument doc = .ok d) :
    d.Stated := by
  obtain ⟨declared, entered, attached⟩ := of_bind_eq_ok drafted
  cases attached
  have start : AllDeclared [] (empty doc.diagnostics) :=
    ⟨[], rfl, rfl, counted_diagnostics_of_parse read⟩
  obtain ⟨wellFormed, allDeclared⟩ := declared_all (wellFormed_empty _) start entered
  have nothing : declared.attributes = [] := by
    rw [declared_rest entered]
    rfl
  have described := describable_of_declared entered (Document.describable_of_parse read)
    (by simp [empty])
  exact (allDeclared.stated described nothing).attach_all wellFormed _

end Draft

/-! ## Without headers -/

theorem Line.foldl_enter_ne_nil {names entered : List String} (some : names ≠ [] ∨ entered ≠ []) :
    names.foldl Line.enter entered ≠ [] := by
  induction names generalizing entered with
  | nil => simpa using some
  | cons name names ih =>
    apply ih
    right
    unfold Line.enter
    split
    · next known =>
      rintro rfl
      simp at known
    · simp

/-- Above the first header nothing is stated, since a bullet there is an error. -/
theorem Outcome.ne_stated_of_headless {known : List String} {place : Outcome.Place}
    {number : Nat} {line : Line} {outcome : Outcome} (noOwner : place.owner = none)
    (noHeader : Line.headerName? (number, line) = none)
    (read : Outcome.ofLine known place number line = .ok outcome) :
    (∀ f, outcome ≠ .stated f) ∧ (place.after line).owner = none := by
  cases line with
  | header name description text => simp [Line.headerName?] at noHeader
  | bullet body => simp [Outcome.ofLine, noOwner] at read
  | prose text =>
    refine ⟨?_, noOwner⟩
    rintro f rfl
    simp only [Outcome.ofLine, Outcome.ofProse, noOwner] at read
    split at read <;> simp [Except.mapError] at read
  | _ =>
    refine ⟨?_, noOwner⟩
    rintro f rfl
    simp [Outcome.ofLine] at read

theorem Trace.ne_stated_of_headless {known : List String} {place : Outcome.Place}
    {ls : List (Nat × Line)} (noOwner : place.owner = none)
    (headless : ls.filterMap Line.headerName? = [])
    (read : (Trace.ofLines known place ls).failure = none) :
    ∀ outcome ∈ (Trace.ofLines known place ls).outcomes, ∀ f, outcome.2 ≠ .stated f := by
  induction ls generalizing place with
  | nil => simp [Trace.ofLines]
  | cons head rest ih =>
    obtain ⟨number, line⟩ := head
    obtain ⟨noHeader, restHeadless⟩ : Line.headerName? (number, line) = none ∧
        rest.filterMap Line.headerName? = [] := by
      simpa [List.filterMap_eq_nil_iff] using headless
    unfold Trace.ofLines at read ⊢
    cases outcomeEq : Outcome.ofLine known place number line with
    | error failure => simp [outcomeEq] at read
    | ok outcome =>
      obtain ⟨notStated, stillNoOwner⟩ :=
        Outcome.ne_stated_of_headless noOwner noHeader outcomeEq
      simp only [outcomeEq] at read ⊢
      intro other mem
      rcases List.mem_cons.mp mem with rfl | later
      · exact notStated
      · exact ih stillNoOwner restHeadless read other later

theorem Document.facts_statementsOf_eq_nil {outcomes : List (Nat × Outcome)}
    (none : ∀ outcome ∈ outcomes, ∀ f, outcome.2 ≠ .stated f) :
    Draft.facts (statementsOf outcomes) = [] := by
  induction outcomes with
  | nil => rfl
  | cons head rest ih =>
    obtain ⟨number, outcome⟩ := head
    have restNone := ih fun other mem => none other (List.mem_cons_of_mem _ mem)
    cases outcome with
    | stated f => exact absurd rfl (none (number, .stated f) List.mem_cons_self f)
    | _ => exact restNone

/-- A text that declares no entity has none. -/
theorem Draft.entities_eq_nil_of_parse {text : String} {doc : Document}
    (read : Document.parse text = .ok doc) (headless : doc.entityNames = []) {d : Draft}
    (drafted : Draft.ofDocument doc = .ok d) : d.entities = [] := by
  have listed := Document.entityNames_of_parse read
  rw [headless] at listed
  have noNames : (Draft.declarations doc.statements).map (·.name) = [] := by
    rw [← not_ne_iff]
    intro some
    exact Line.foldl_enter_ne_nil (.inl some) listed.symm
  have noDeclarations : Draft.declarations doc.statements = [] := List.map_eq_nil_iff.mp noNames
  have noFacts : Draft.facts doc.statements = [] := by
    simp only [Document.parse] at read
    split at read
    · contradiction
    · next succeeded =>
      cases read
      have noHeaders : (Line.ofText text).filterMap Line.headerName? = [] := by
        rw [Document.ofOutcomes, Line.scannedNames_eq, Line.declaredNames] at headless
        rw [← not_ne_iff]
        intro some
        exact Line.foldl_enter_ne_nil (.inl some) headless
      exact Document.facts_statementsOf_eq_nil
        (Trace.ne_stated_of_headless (rfl : Outcome.Place.top.owner = none) noHeaders succeeded)
  obtain ⟨declared, entered, attached⟩ := of_bind_eq_ok drafted
  rw [noDeclarations] at entered
  rw [noFacts] at attached
  cases entered
  cases attached
  rfl

end FactModel
