import FactModel.Artifact.Checks
import FactModel.Proofs.Graph.Ruling
import FactModel.Proofs.Schema.Backing
import FactModel.Proofs.View.Lookup

/-!
# When the rules of a graph can be checked

A rule on a count, a subtype rule and an identifier can always be checked.  A rule on an attribute
can be checked unless the attribute has no column: an explicit one in the table of its entity, or a
derived one in the view.
-/

namespace FactModel

/-- Whether a constraint is on an attribute that has no column: an explicit one that the table of
its entity does not store, or a derived one that the view hides. -/
def Graph.Unstored (g : Graph) (s : Schema) (c : Constraint) : Prop :=
  match c.demand with
  | .onAttribute _ attr false => ∃ a t, g.attribute? c.entity attr = some a ∧
      s.tableOf c.entity = .ok t ∧ t.columnFor? a.index = none
  | .onAttribute _ attr true => ∃ v, View.ofEntity g s c.entity = .ok v ∧ attr ∈ v.hidden
  | .minCount .. => False

namespace Checks

/-! ## Steps in a row -/

theorem blocksOf_isOk_iff {steps : List Step} : (∃ blocks, blocksOf steps = .ok blocks) ↔
    ∀ step ∈ steps, ∃ block, step.outcome = .ok block := by
  induction steps with
  | nil => simp [blocksOf]
  | cons step rest ih =>
    rw [List.forall_mem_cons, ← ih, blocksOf]
    cases step.outcome with
    | error e => simp [bind, Except.bind]
    | ok block =>
      cases blocksOf rest with
      | error e => simp [bind, Except.bind]
      | ok blocks => simp [bind, Except.bind, pure, Except.pure]

theorem exists_of_blocksOf_eq_error {steps : List Step} {e : ArtifactFailure}
    (failed : blocksOf steps = .error e) : ∃ step ∈ steps, step.outcome = .error e := by
  induction steps with
  | nil => contradiction
  | cons step rest ih =>
    rw [blocksOf] at failed
    cases outcome : step.outcome with
    | error first =>
      simp only [outcome, bind, Except.bind, Except.error.injEq] at failed
      exact ⟨step, List.mem_cons_self, failed ▸ outcome⟩
    | ok block =>
      cases others : blocksOf rest with
      | error later =>
        simp only [outcome, others, bind, Except.bind, Except.error.injEq] at failed
        obtain ⟨other, mem, otherFailed⟩ := ih (others.trans (congrArg _ failed))
        exact ⟨other, List.mem_cons_of_mem _ mem, otherFailed⟩
      | ok blocks => simp [outcome, others, bind, Except.bind, pure, Except.pure] at failed

/-- The block of a rule on an attribute is made unless there is no column for it. -/
theorem attributeBlock_cases {unstored : Prop} {place? : Option (String × String)}
    (missing_iff : unstored ↔ place? = none) (rule : AttributeRule) (words : String) :
    (¬unstored ∧ ∃ block?, attributeBlock rule words place? = .ok block?) ∨
      (unstored ∧ attributeBlock rule words place? = .error (.noColumn words)) := by
  cases place? with
  | none => exact .inr ⟨missing_iff.mpr rfl, rfl⟩
  | some place => exact .inl ⟨fun holds => by simpa using missing_iff.mp holds, _, rfl⟩

section Steps

variable {doc : Document} {g : Graph} (compiled : Compiled doc g)

include compiled

/-! ## Counts -/

theorem minCount?_eq_ok {entity : Nat} (inGraph : entity < g.entities.length) (i count : Nat) :
    ∃ check?, minCount? (Schema.ofGraph g) entity i count = .ok check? := by
  obtain ⟨t, -, table, -⟩ := Mapping.tableOf_eq_ok compiled inGraph
  unfold minCount?
  split
  · exact ⟨_, by rw [table]; rfl⟩
  · exact ⟨none, rfl⟩

/-- The rows that refer to an entity are counted through the key that backs a relationship. -/
theorem exists_minCount?_eq {r : Relationship} (mem : r ∈ g.relationships) (count : Nat) :
    ∃ k child parent, (Schema.ofGraph g).keyFor? r.index = some k ∧ k ∈ child.foreignKeys ∧
      (Schema.ofGraph g).tableOf r.holder = .ok child ∧
      (Schema.ofGraph g).tableOf r.referred = .ok parent ∧
      (Schema.ofGraph g).table? k.refTable = some parent ∧
      minCount? (Schema.ofGraph g) r.referred r.index count =
        .ok (some (.minCount parent.name k.refColumn child.name k.column count)) := by
  obtain ⟨k, child, parent, found, holder, kMem, -, isChild, isParent, refTable⟩ :=
    Mapping.placed_of_mem compiled mem
  have parentName : k.refTable = parent.name := (eq_of_beq (List.find?_some refTable :)).symm
  refine ⟨k, child, parent, found, kMem, isChild, isParent, refTable, ?_⟩
  simp only [minCount?, found, holder, isParent, bind, Except.bind, if_pos parentName]
  rfl

/-- The rows that a relationship links to an entity can be counted. -/
theorem minCount?_eq_some {entity target : Nat} {r : Relationship} (mem : r ∈ g.relationships)
    (linked : Draft.links r entity target = true) (count : Nat) :
    ∃ check, minCount? (Schema.ofGraph g) entity r.index count = .ok (some check) := by
  have refers : r.referred = entity := by
    simp only [Draft.links, Bool.or_eq_true, Bool.and_eq_true, beq_iff_eq] at linked
    rcases linked with ⟨⟨-, isTarget⟩, derivable⟩ | ⟨⟨isSource, -⟩, isMany⟩
    · rw [r.referred_of_derivable derivable, isTarget]
    · have many : r.derivable = false := by rw [Relationship.derivable, isMany]; rfl
      rw [r.referred_of_not_derivable many, isSource]
  subst refers
  obtain ⟨k, child, parent, -, -, -, -, -, counted⟩ := exists_minCount?_eq compiled mem count
  exact ⟨_, counted⟩

theorem firstCount?_eq_ok {entity : Nat} (inGraph : entity < g.entities.length)
    (target count : Nat) (rs : List Relationship) :
    ∃ check?, firstCount? (Schema.ofGraph g) entity target count rs = .ok check? := by
  induction rs with
  | nil => exact ⟨none, rfl⟩
  | cons r rest ih =>
    rw [firstCount?]
    split
    · obtain ⟨check?, counted⟩ := minCount?_eq_ok compiled inGraph r.index count
      rw [counted]
      cases check? with
      | some check => exact ⟨some check, rfl⟩
      | none => exact ih
    · exact ih

/-- A subtype rule can be checked, or is told to be untestable. -/
theorem ofSubtypeRule_eq_ok {rule : SubtypeRule} (mem : rule ∈ g.subtypeRules) :
    ∃ block?, (ofSubtypeRule g (Schema.ofGraph g) rule).outcome = .ok block? := by
  unfold ofSubtypeRule
  split
  · next target count predicate =>
    extract_lets subtypeName targetName words
    obtain ⟨check?, counted⟩ := firstCount?_eq_ok compiled (compiled.closed.subtypes rule mem).1
      target count g.relationships
    rw [counted]
    cases check? <;> exact ⟨_, rfl⟩
  · exact ⟨none, rfl⟩

/-- That an identifier is unique can be checked. -/
theorem ofIdentifier_eq_ok {e : Entity} (mem : e ∈ g.entities) :
    ∃ block?, (ofIdentifier g (Schema.ofGraph g) e).outcome = .ok block? := by
  unfold ofIdentifier
  cases g.identifier? e.index with
  | none => exact ⟨none, rfl⟩
  | some a =>
    obtain ⟨t, -, table, sound, -⟩ := Mapping.tableOf_eq_ok compiled
      (compiled.wellFormed.placed.entityIndex.lt_length mem)
    exact ⟨_, by simp only [table, Except.mapError, bind, Except.bind, sound.primary]; rfl⟩

/-! ## Attributes -/

theorem attribute?_eq_some {entity : Nat} {a : Attribute} (mem : a ∈ g.attributesOf entity) :
    g.attribute? entity a.name = some a :=
  find?_of_nodup_map (compiled.attributeKeys_nodup entity) mem rfl

/-- Where an explicit attribute is stored. -/
theorem storedAt_eq_ok {entity : Nat} {t : Table} {a : Attribute} (mem : a ∈ g.attributesOf entity)
    (table : (Schema.ofGraph g).tableOf entity = .ok t) :
    storedAt g (Schema.ofGraph g) entity a.name =
      .ok ((t.columnFor? a.index).map fun c => (t.name, c.name)) := by
  have found := attribute?_eq_some compiled mem
  simp only [storedAt, table, found, Option.bind_some, bind, Except.bind, pure, Except.pure]

theorem unstored_iff_of_stored {entity : Nat} {t : Table} {a : Attribute}
    (mem : a ∈ g.attributesOf entity) (table : (Schema.ofGraph g).tableOf entity = .ok t) :
    (∃ b u, g.attribute? entity a.name = some b ∧ (Schema.ofGraph g).tableOf entity = .ok u ∧
      u.columnFor? b.index = none) ↔ t.columnFor? a.index = none := by
  have found := attribute?_eq_some compiled mem
  constructor
  · rintro ⟨b, u, found', table', missing⟩
    obtain rfl := Option.some.inj (found.symm.trans found')
    obtain rfl := Except.ok.inj (table.symm.trans table')
    exact missing
  · intro missing
    exact ⟨a, t, found, table, missing⟩

/-- A view hides just the derived attributes that it does not show. -/
theorem unstored_iff_of_shown (named : ∀ a ∈ g.attributes, Name.Nonblank a.name) {entity : Nat}
    {t : Table} {v : View} (table : (Schema.ofGraph g).tableOf entity = .ok t)
    (viewed : View.ofEntity g (Schema.ofGraph g) entity = .ok v) {d : DerivedAttribute}
    (mem : d ∈ g.derivedOf entity) :
    (∃ u, View.ofEntity g (Schema.ofGraph g) entity = .ok u ∧ d.name ∈ u.hidden) ↔
      shownAt v d.name = none := by
  rw [shownAt, Option.map_eq_none_iff]
  constructor
  · rintro ⟨u, viewed', hidden⟩
    obtain rfl := Except.ok.inj (viewed.symm.trans viewed')
    rcases View.column?_derived compiled table viewed named mem with
      ⟨-, missing⟩ | ⟨notHidden, -⟩
    · exact missing
    · exact absurd hidden notHidden
  · intro missing
    rcases View.column?_derived compiled table viewed named mem with
      ⟨hidden, -⟩ | ⟨-, column, -, there, -⟩
    · exact ⟨v, viewed, hidden⟩
    · simp [missing] at there

/-- What the check of a constraint comes to.  It fails just when the constraint is on an attribute
without a column. -/
theorem ofConstraint_cases (named : ∀ a ∈ g.attributes, Name.Nonblank a.name) {c : Constraint}
    (mem : c ∈ g.constraints) (grounds : g.draft.Grounds g.derived c) :
    (¬g.Unstored (Schema.ofGraph g) c ∧
        ∃ block?, (ofConstraint g (Schema.ofGraph g) c).outcome = .ok block?) ∨
      (g.Unstored (Schema.ofGraph g) c ∧
        (ofConstraint g (Schema.ofGraph g) c).outcome = .error (.noColumn (g.rationale c))) := by
  have inGraph := (compiled.constraints c mem).1
  obtain ⟨t, -, table, -⟩ := Mapping.tableOf_eq_ok compiled inGraph
  unfold Draft.Grounds at grounds
  unfold Graph.Unstored ofConstraint
  extract_lets words
  cases demand : c.demand with
  | minCount target count i =>
    rw [demand] at grounds
    obtain ⟨r, rMem, rfl, linked⟩ := grounds
    obtain ⟨check, counted⟩ := minCount?_eq_some compiled rMem linked count
    exact .inl ⟨id, _, by simp only [counted, Except.mapError, bind, Except.bind]; rfl⟩
  | onAttribute rule attr isDerived =>
    rw [demand] at grounds
    cases isDerived with
    | false =>
      obtain ⟨a, aMem, rfl⟩ := grounds
      simp only [storedAt_eq_ok compiled aMem table, Except.mapError, bind, Except.bind]
      apply attributeBlock_cases
      rw [Option.map_eq_none_iff]
      exact unstored_iff_of_stored compiled aMem table
    | true =>
      obtain ⟨d, dMem, owner, rfl⟩ := grounds
      have had : d ∈ g.derivedOf c.entity := List.mem_filter.mpr ⟨dMem, by simp [owner]⟩
      obtain ⟨v, viewed, -⟩ := View.laid_ofEntity compiled table
      have hidden_iff := unstored_iff_of_shown compiled named table viewed had
      simp only [viewed] at hidden_iff ⊢
      exact attributeBlock_cases hidden_iff rule words

end Steps

end Checks

namespace Artifact

section

variable {doc : Document} {g : Graph} (compiled : Compiled doc g)
  (named : ∀ a ∈ g.attributes, Name.Nonblank a.name)
  (grounded : ∀ c ∈ g.constraints, g.draft.Grounds g.derived c)

include compiled named grounded

/-- The steps of checking a graph all succeed, unless a constraint is on an attribute without a
column. -/
theorem steps_isOk_iff :
    (∀ step ∈ Checks.steps g (Schema.ofGraph g), ∃ block?, step.outcome = .ok block?) ↔
      ∀ c ∈ g.constraints, ¬g.Unstored (Schema.ofGraph g) c := by
  simp only [Checks.steps, List.mem_append, List.mem_map]
  constructor
  · intro succeeds c mem unstored
    rcases Checks.ofConstraint_cases compiled named mem (grounded c mem) with
      ⟨stored, -⟩ | ⟨-, failed⟩
    · exact stored unstored
    · obtain ⟨block, made⟩ := succeeds _ (.inl (.inl ⟨c, mem, rfl⟩))
      simp [failed] at made
  · rintro stored step ((⟨c, mem, rfl⟩ | ⟨rule, mem, rfl⟩) | ⟨e, mem, rfl⟩)
    · rcases Checks.ofConstraint_cases compiled named mem (grounded c mem) with
        ⟨-, made⟩ | ⟨unstored, -⟩
      · exact made
      · exact absurd unstored (stored c mem)
    · exact Checks.ofSubtypeRule_eq_ok compiled mem
    · exact Checks.ofIdentifier_eq_ok compiled mem

/-- Checks can be made unless a constraint is on an attribute without a column. -/
theorem checks_isOk_iff (d : Dialect) :
    (∃ text, checks g (Schema.ofGraph g) d = .ok text) ↔
      ∀ c ∈ g.constraints, ¬g.Unstored (Schema.ofGraph g) c := by
  rw [← steps_isOk_iff compiled named grounded, ← Checks.blocksOf_isOk_iff, checks]
  cases Checks.blocksOf (Checks.steps g (Schema.ofGraph g)) with
  | error e => simp [bind, Except.bind]
  | ok blocks => simp [bind, Except.bind, pure, Except.pure]

/-- When checks cannot be made, it is because of a constraint on an attribute without a column. -/
theorem of_checks_eq_error {d : Dialect} {e : ArtifactFailure}
    (failed : checks g (Schema.ofGraph g) d = .error e) :
    ∃ c ∈ g.constraints, g.Unstored (Schema.ofGraph g) c ∧ e = .noColumn (g.rationale c) := by
  have stopped : Checks.blocksOf (Checks.steps g (Schema.ofGraph g)) = .error e := by
    rw [checks] at failed
    cases blocks : Checks.blocksOf (Checks.steps g (Schema.ofGraph g)) with
    | error first => simpa [blocks, bind, Except.bind] using failed
    | ok blocks' => simp [blocks, bind, Except.bind, pure, Except.pure] at failed
  obtain ⟨step, mem, outcome⟩ := Checks.exists_of_blocksOf_eq_error stopped
  simp only [Checks.steps, List.mem_append, List.mem_map] at mem
  rcases mem with (⟨c, cMem, rfl⟩ | ⟨rule, ruleMem, rfl⟩) | ⟨entity, eMem, rfl⟩
  · rcases Checks.ofConstraint_cases compiled named cMem (grounded c cMem) with
      ⟨-, block, made⟩ | ⟨unstored, refused⟩
    · simp [outcome] at made
    · exact ⟨c, cMem, unstored, Except.error.inj (outcome.symm.trans refused)⟩
  · obtain ⟨block, made⟩ := Checks.ofSubtypeRule_eq_ok compiled ruleMem
    simp [outcome] at made
  · obtain ⟨block, made⟩ := Checks.ofIdentifier_eq_ok compiled eMem
    simp [outcome] at made

end

end Artifact

end FactModel
