import FactModel.Proofs.Graph.Drafting

/-!
# Attaching facts

A fact adds an attribute, a relationship with or without a reference attribute, a rule or a subtype
to a draft, and may introduce the entities it names.  Whatever it adds, the draft stays well formed,
and the entities introduced so far keep their names and their order.
-/

namespace FactModel

/-- What an attribute is known to be before rules are checked: it is not required, a type that was
not declared is the one that its name suggests, and a reference has no sample. -/
structure Attribute.Stated (a : Attribute) : Prop where
  optional : a.required = false
  guessed : a.references = none → a.typeDeclared = false → a.type = .ofAttributeName a.name
  bare : a.references.isSome = true → a.sample = none

namespace Draft

open Arena

/-! ## Attaching attributes -/

theorem ofDeclaration?_ne_reference (word : String) :
    SemanticType.ofDeclaration? word ≠ some .reference := by
  intro found
  obtain ⟨⟨shown, type⟩, entry, isReference⟩ := Option.map_eq_some_iff.mp found
  have mem := List.mem_of_find?_eq_some entry
  simp only at isReference
  subst isReference
  simp [SemanticType.declared] at mem

theorem ofAttributeName_ne_reference (name : String) :
    SemanticType.ofAttributeName name ≠ .reference := by
  unfold SemanticType.ofAttributeName
  split
  · decide
  · split <;> decide

/-- Finding a type leaves at most a note, and no type found is that of references.  A type that was
not declared is guessed. -/
theorem typeOf_spec (d : Draft) (line : Nat) (name : String) (declaredType : Option String) :
    (d.typeOf line name declaredType).1 ≠ .reference ∧
      Noted d (d.typeOf line name declaredType).2.2 ∧
      ((d.typeOf line name declaredType).2.1 = false →
        (d.typeOf line name declaredType).1 = .ofAttributeName name) := by
  have guessed := ofAttributeName_ne_reference name
  unfold typeOf
  cases declaredType with
  | none => exact ⟨guessed, Noted.refl d, fun _ => rfl⟩
  | some word =>
    simp only
    split
    · exact ⟨guessed, Noted.refl d, fun _ => rfl⟩
    · cases declared : SemanticType.ofDeclaration? word with
      | none => exact ⟨guessed, (Noted.refl d).warn line rfl, fun _ => rfl⟩
      | some type =>
        refine ⟨?_, Noted.refl d, by simp⟩
        rintro rfl
        exact ofDeclaration?_ne_reference word declared

/-- When the identifier of an entity does not clash with a name, every identifier has that name. -/
theorem key_of_no_clash {d : Draft} (wellFormed : d.WellFormed) {entity : Nat} {name : String}
    (noClash : ((d.attributesOf entity).find? (·.identifying)).filter
      (Name.key ·.name != Name.key name) = none) {b : Attribute} (mem : b ∈ d.attributes)
    (owner : b.entity = entity) (identifying : b.identifying = true) :
    Name.key b.name = Name.key name := by
  have bMem := (mem_attributesOf wellFormed.placed).mpr ⟨mem, owner⟩
  cases found : (d.attributesOf entity).find? (·.identifying) with
  | none =>
    have := List.find?_eq_none.mp found b bMem
    contradiction
  | some first =>
    have ofFirst := (mem_attributesOf wellFormed.placed).mp (List.mem_of_find?_eq_some found)
    have sameIndex := wellFormed.apart.identifiers b mem first ofFirst.1
      (owner.trans ofFirst.2.symm) identifying (List.find?_some found)
    rw [wellFormed.placed.attributeIndex.eq_of_index mem ofFirst.1 sameIndex]
    simpa [found] using noClash

/-- What attaching an attribute comes to, notes aside: a new attribute, a variant of the one of
that name, or nothing.  Either attribute identifies its entity only when no other one does. -/
inductive Attached (d : Draft) (entity : Nat) (name : String) (n : Draft) : Draft → Prop where
  | added (a : Attribute) (fresh : d.attribute? entity name = none) (owner : a.entity = entity)
      (named : a.name = name) (type : a.type ≠ .reference) (plain : a.references = none)
      (alone : a.identifying = true →
        ∀ b ∈ d.attributes, b.entity = entity → b.identifying = false)
      (stated : a.Stated) : Attached d entity name n (n.addAttribute a)
  | changed (old new : Attribute) (found : d.attribute? entity name = some old)
      (index : new.index = old.index) (owner : new.entity = old.entity)
      (named : new.name = old.name) (type : new.type ≠ .reference)
      (plain : new.references = none) (oldPlain : old.references = none)
      (alone : new.identifying = true →
        ∀ b ∈ d.attributes, b.entity = entity → b.identifying = true → b.index = old.index)
      (stated : old.Stated → new.Stated) : Attached d entity name n (n.setAttribute new)
  | kept : Attached d entity name n n

theorem attachAttribute_cases {d : Draft} (wellFormed : d.WellFormed) (line entity : Nat)
    (name : String) (declaredType sample : Option String) (identifying : Bool) :
    ∃ n, Noted d n ∧ Attached d entity name n
      (d.attachAttribute line entity name declaredType sample identifying) := by
  have typed := typeOf_spec d line name declaredType
  rcases found : d.typeOf line name declaredType with ⟨type, typeDeclared, d₁⟩
  rw [found] at typed
  obtain ⟨typeNe, noted₁, typeGuessed⟩ := typed
  simp -zeta only [attachAttribute, found]
  extract_lets owner current clash d₂ kept
  -- An attribute that is to identify the entity is attached as such only without a clash.
  have noClash (isKept : kept = true) :
      ((d.attributesOf entity).find? (·.identifying)).filter
        (Name.key ·.name != Name.key name) = none := by
    rw [Bool.and_eq_true, Option.isNone_iff_eq_none] at isKept
    rw [← noted₁.attributesOf]
    simpa only [clash, isKept.1, if_true] using isKept.2
  clear_value clash
  have noted₂ : Noted d d₂ := by
    cases clash with
    | none => exact noted₁
    | some first => exact noted₁.warn line rfl
  clear_value d₂ kept
  rw [noted₂.attribute?]
  cases look : d.attribute? entity name with
  | none =>
    refine ⟨d₂, noted₂, .added _ look rfl rfl typeNe rfl ?_ ?_⟩
    · intro kept b mem owner
      rw [Bool.eq_false_iff]
      intro bIdentifying
      exact key_ne_of_attribute?_eq_none wellFormed.placed look mem owner
        (key_of_no_clash wellFormed (noClash kept) mem owner bIdentifying)
    · exact ⟨rfl, fun _ => typeGuessed, by simp⟩
  | some old =>
    obtain ⟨oldMem, oldOwner, oldKey⟩ := of_attribute?_eq_some wellFormed.placed look
    simp -zeta only
    extract_lets d₃
    have noted₃ : Noted d d₃ := by
      simp only [d₃]
      split
      · exact noted₂.warn line rfl
      · exact noted₂
    clear_value d₃
    refine ⟨d₃, noted₃, ?_⟩
    split
    · exact .kept
    · next notReference =>
      have oldPlain : old.references = none := by simpa using notReference
      have oldType : old.type ≠ .reference := by
        rw [ne_eq, wellFormed.apart.referenceType old oldMem, oldPlain]
        simp
      refine .changed old _ look rfl rfl rfl ?_ oldPlain oldPlain ?_ ?_
      · simp only
        split
        · exact typeNe
        · exact oldType
      · intro kept b mem owner bIdentifying
        rcases (Bool.or_eq_true ..).mp kept with before | now
        · exact wellFormed.apart.identifiers b mem old oldMem (owner.trans oldOwner.symm)
            bIdentifying before
        · exact wellFormed.apart.attributeKeys b mem old oldMem (owner.trans oldOwner.symm)
            ((key_of_no_clash wellFormed (noClash now) mem owner bIdentifying).trans oldKey.symm)
      · intro stated
        refine ⟨stated.optional, ?_, by simp [oldPlain]⟩
        intro _ notDeclared
        simp only [Bool.or_eq_false_iff] at notDeclared
        simpa [notDeclared.2] using stated.guessed oldPlain notDeclared.1

theorem names_addAttribute (d : Draft) (a : Attribute) : (d.addAttribute a).names = d.names := by
  apply map_modify_of_eq
  intro e
  rfl

theorem headings_addAttribute (d : Draft) (a : Attribute) :
    (d.addAttribute a).headings = d.headings := by
  apply map_modify_of_eq
  intro e
  rfl

theorem length_entities_addAttribute (d : Draft) (a : Attribute) :
    (d.addAttribute a).entities.length = d.entities.length := by
  simp [Draft.addAttribute]

theorem WellFormed.addAttribute {d : Draft} (wellFormed : d.WellFormed) {a : Attribute}
    (bound : a.entity < d.entities.length)
    (keyFree : ∀ b ∈ d.attributes, b.entity = a.entity → Name.key b.name ≠ Name.key a.name)
    (alone : a.identifying = true →
      ∀ b ∈ d.attributes, b.entity = a.entity → b.identifying = false)
    (type : a.type ≠ .reference) (plain : a.references = none) :
    (d.addAttribute a).WellFormed := by
  constructor
  · exact wellFormed.placed.addAttribute rfl bound
  · rw [names_addAttribute]
    exact wellFormed.apart.addAttribute keyFree alone (by simp [type, plain]) (by simp [plain])
  · rw [names_addAttribute]
    exact wellFormed.told.addAttribute plain
  · rw [length_entities_addAttribute]
    exact wellFormed.rules
  · rw [length_entities_addAttribute]
    exact wellFormed.subtypes

/-- An attribute may be replaced by a variant of the same place, owner, name and target. -/
theorem WellFormed.setAttribute {d : Draft} (wellFormed : d.WellFormed) {old new : Attribute}
    (mem : old ∈ d.attributes) (index : new.index = old.index) (owner : new.entity = old.entity)
    (named : new.name = old.name) (references : new.references = old.references)
    (type : new.type = .reference ↔ new.references.isSome = true)
    (plain : new.references.isSome = true → new.identifying = false)
    (alone : new.identifying = true →
      ∀ b ∈ d.attributes, b.entity = old.entity → b.identifying = true → b.index = old.index) :
    (d.setAttribute new).WellFormed := by
  have found : d.attributes[new.index]? = some old := by
    rw [index]
    exact wellFormed.placed.attributeIndex.getElem? mem
  constructor
  · exact wellFormed.placed.congr rfl (map_set_of_eq found (by rw [owner, index]))
  · exact wellFormed.apart.setAttribute mem index owner named alone type plain new.index
  · exact wellFormed.told.congr (map_set_of_eq found (by rw [owner, named, references]))
  · exact wellFormed.rules
  · exact wellFormed.subtypes

theorem WellFormed.attachAttribute {d : Draft} (wellFormed : d.WellFormed) (line : Nat)
    {entity : Nat} (bound : entity < d.entities.length) (name : String)
    (declaredType sample : Option String) (identifying : Bool) :
    (d.attachAttribute line entity name declaredType sample identifying).WellFormed := by
  obtain ⟨n, noted, attached⟩ :=
    attachAttribute_cases wellFormed line entity name declaredType sample identifying
  have nWellFormed := noted.wellFormed wellFormed
  obtain ⟨notes, rfl, -⟩ := noted
  generalize d.attachAttribute line entity name declaredType sample identifying = e at attached ⊢
  cases attached with
  | added a fresh owner named type plain alone =>
    refine nWellFormed.addAttribute (owner ▸ bound) ?_ (owner ▸ alone) type plain
    intro b mem sameOwner
    rw [named]
    exact key_ne_of_attribute?_eq_none wellFormed.placed fresh mem (sameOwner.trans owner)
  | changed old new found index owner named type plain oldPlain alone =>
    obtain ⟨mem, oldOwner, -⟩ := of_attribute?_eq_some wellFormed.placed found
    refine nWellFormed.setAttribute mem index owner named (plain.trans oldPlain.symm)
      (by simp [type, plain]) (by simp [plain]) ?_
    rw [oldOwner]
    exact alone
  | kept => exact nWellFormed

theorem Introduced.attachAttribute {declared : List String} {d : Draft}
    (introduced : Introduced declared d) (wellFormed : d.WellFormed) (line entity : Nat)
    (name : String) (declaredType sample : Option String) (identifying : Bool) :
    Introduced declared
      (d.attachAttribute line entity name declaredType sample identifying) := by
  obtain ⟨n, noted, attached⟩ :=
    attachAttribute_cases wellFormed line entity name declaredType sample identifying
  have nIntroduced := noted.introduced introduced
  generalize d.attachAttribute line entity name declaredType sample identifying = e at attached ⊢
  cases attached with
  | added a => exact nIntroduced.congr (headings_addAttribute n a) rfl
  | changed old new => exact nIntroduced.congr rfl rfl
  | kept => exact nIntroduced

/-! ## Attaching relationships -/

/-- A relationship may be added alone when nothing is derived along it, or when its source has an
attribute of the name of its target. -/
theorem WellFormed.addRelationship {d : Draft} (wellFormed : d.WellFormed) {r : Relationship}
    (last : r.index = d.relationships.length) (source : r.source < d.entities.length)
    (target : r.target < d.entities.length)
    (fresh : ∀ s ∈ d.relationships,
      s.source = r.source → s.target = r.target → s.derivable ≠ r.derivable)
    (named : r.derivable = true → ∃ a ∈ d.attributes,
      a.entity = r.source ∧ Name.key a.name = Name.key (nameAt d.names r.target)) :
    WellFormed { d with relationships := d.relationships ++ [r] } :=
  { wellFormed with
    apart := wellFormed.apart.addRelationship last (by simpa using source) (by simpa using target)
      fresh
    told := wellFormed.told.addRelationship named }

/-- A relationship and the reference attribute for it may be added together. -/
theorem WellFormed.addReference {d : Draft} (wellFormed : d.WellFormed) {r : Relationship}
    {a : Attribute} (last : r.index = d.relationships.length)
    (source : r.source < d.entities.length) (target : r.target < d.entities.length)
    (fresh : ∀ s ∈ d.relationships,
      s.source = r.source → s.target = r.target → s.derivable ≠ r.derivable)
    (derivable : r.derivable = true) (owner : a.entity = r.source)
    (named : a.name = nameAt d.names r.target) (references : a.references = some r.target)
    (type : a.type = .reference) (plain : a.identifying = false)
    (keyFree : ∀ b ∈ d.attributes, b.entity = a.entity → Name.key b.name ≠ Name.key a.name) :
    (Draft.addAttribute { d with relationships := d.relationships ++ [r] } a).WellFormed := by
  constructor
  · exact wellFormed.placed.addAttribute rfl (owner ▸ source)
  · rw [names_addAttribute]
    have added : Apart d.names (d.attributes ++ [{ a with index := d.attributes.length }])
        d.relationships :=
      wellFormed.apart.addAttribute keyFree (by simp [plain]) (by simp [type, references])
        fun _ => plain
    exact added.addRelationship last (by simpa using source) (by simpa using target) fresh
  · rw [names_addAttribute]
    exact wellFormed.told.addReference derivable (by simpa using target) owner named references
  · rw [length_entities_addAttribute]
    exact wellFormed.rules
  · rw [length_entities_addAttribute]
    exact wellFormed.subtypes

theorem WellFormed.attachRelationship {d : Draft} (wellFormed : d.WellFormed) (line : Nat)
    {source target : Nat} (sourceBound : source < d.entities.length)
    (targetBound : target < d.entities.length) (cardinality : Cardinality) :
    (d.attachRelationship line source target cardinality).WellFormed := by
  unfold Draft.attachRelationship
  extract_lets again sourceName targetName d₁
  by_cases isAgain : again = true
  · rw [if_pos isAgain]
    exact wellFormed.warn line _
  · rw [if_neg isAgain]
    have fresh : ∀ s ∈ d.relationships,
        s.source = source → s.target = target → s.derivable ≠ cardinality.isSingle := by
      intro s mem sameSource sameTarget sameKind
      apply isAgain
      exact List.any_eq_true.mpr ⟨s, mem, by simp [sameSource, sameTarget, sameKind]⟩
    split
    · next single =>
      split
      · next taken =>
        obtain ⟨a, found⟩ := Option.isSome_iff_exists.mp taken
        obtain ⟨mem, owner, key⟩ := of_attribute?_eq_some (d := d) wellFormed.placed found
        exact (wellFormed.addRelationship rfl sourceBound targetBound fresh fun _ =>
          ⟨a, mem, owner, key.trans (by rw [← entityName_eq])⟩).warn line _
      · next free =>
        have missing := Option.not_isSome_iff_eq_none.mp free
        refine wellFormed.addReference rfl sourceBound targetBound fresh single rfl
          (entityName_eq d target) rfl rfl rfl ?_
        intro b mem owner
        exact key_ne_of_attribute?_eq_none (d := d) wellFormed.placed missing mem owner
    · next many =>
      exact wellFormed.addRelationship rfl sourceBound targetBound fresh fun single =>
        absurd single many

theorem Introduced.attachRelationship {declared : List String} {d : Draft}
    (introduced : Introduced declared d) (line source target : Nat) (cardinality : Cardinality) :
    Introduced declared (d.attachRelationship line source target cardinality) := by
  unfold Draft.attachRelationship
  extract_lets again sourceName targetName d₁
  by_cases isAgain : again = true
  · rw [if_pos isAgain]
    exact introduced.warn line rfl
  · rw [if_neg isAgain]
    have related : Introduced declared d₁ := introduced.congr (by rfl) (by rfl)
    split
    · split
      · exact related.warn line rfl
      · exact related.congr (headings_addAttribute ..) (by rfl)
    · exact related

/-! ## Attaching rules and subtypes -/

theorem WellFormed.setAside {d : Draft} (wellFormed : d.WellFormed) (line : Nat) {entity : Nat}
    (bound : entity < d.entities.length) {demand : PendingDemand}
    (target : ∀ target count, demand = .minCount target count → target < d.entities.length) :
    (d.setAside line entity demand).WellFormed := by
  refine { wellFormed with rules := ?_ }
  intro rule mem
  rcases List.mem_append.mp mem with old | new
  · exact wellFormed.rules rule old
  · obtain rfl := List.mem_singleton.mp new
    exact ⟨bound, target⟩

theorem WellFormed.attachRule {d : Draft} (wellFormed : d.WellFormed) (line : Nat) {entity : Nat}
    (bound : entity < d.entities.length) (rule : Rule) :
    (d.attachRule line entity rule).WellFormed := by
  cases rule with
  | notNull attr => exact wellFormed.setAside line bound (by simp)
  | inPast attr => exact wellFormed.setAside line bound (by simp)
  | like attr pattern => exact wellFormed.setAside line bound (by simp)
  | minCount target count =>
    obtain ⟨resolved, targetBound, grown⟩ := wellFormed.resolve line target
    refine resolved.setAside line (Nat.lt_of_lt_of_le bound grown) ?_
    intro t n isTarget
    cases isTarget
    exact targetBound

theorem Introduced.attachRule {declared : List String} {d : Draft}
    (introduced : Introduced declared d) (line entity : Nat) (rule : Rule) :
    Introduced declared (d.attachRule line entity rule) := by
  cases rule with
  | minCount target count => exact (introduced.resolve line target).congr (by rfl) (by rfl)
  | _ => exact introduced.congr (by rfl) (by rfl)

theorem WellFormed.predicateOf {d : Draft} (wellFormed : d.WellFormed) (line : Nat)
    (condition : Option Condition) :
    (d.predicateOf line condition).2.WellFormed ∧
      d.entities.length ≤ (d.predicateOf line condition).2.entities.length ∧
      ∀ target count, (d.predicateOf line condition).1 = some (.related target count) →
        target < (d.predicateOf line condition).2.entities.length := by
  match condition with
  | none => exact ⟨wellFormed, Nat.le_refl _, by simp [Draft.predicateOf]⟩
  | some (.hasAttribute name) => exact ⟨wellFormed, Nat.le_refl _, by simp [Draft.predicateOf]⟩
  | some (.related target count) =>
    obtain ⟨resolved, targetBound, grown⟩ := wellFormed.resolve line target
    refine ⟨resolved, grown, ?_⟩
    intro t n isTarget
    cases isTarget
    exact targetBound

theorem Introduced.predicateOf {declared : List String} {d : Draft}
    (introduced : Introduced declared d) (line : Nat) (condition : Option Condition) :
    Introduced declared (d.predicateOf line condition).2 := by
  match condition with
  | none => exact introduced
  | some (.hasAttribute name) => exact introduced
  | some (.related target count) => exact introduced.resolve line target

/-! ## Attaching facts -/

/-- A fact keeps a draft well formed. -/
theorem WellFormed.attach {d : Draft} (wellFormed : d.WellFormed) (f : Fact) :
    (d.attach f).WellFormed := by
  obtain ⟨entityFound, entityBound, -⟩ := wellFormed.resolve f.line f.entity
  unfold Draft.attach
  generalize d.resolve f.line f.entity = resolved at entityFound entityBound ⊢
  obtain ⟨entity, d₁⟩ := resolved
  cases f.assertion with
  | hasAttribute name declaredType sample identifying =>
    exact entityFound.attachAttribute f.line entityBound name declaredType sample identifying
  | relatedTo target cardinality =>
    obtain ⟨targetFound, targetBound, grown⟩ := entityFound.resolve f.line target
    exact targetFound.attachRelationship f.line (Nat.lt_of_lt_of_le entityBound grown) targetBound
      cardinality
  | obeys rule => exact entityFound.attachRule f.line entityBound rule
  | isA base condition =>
    obtain ⟨baseFound, baseBound, grown⟩ := entityFound.resolve f.line base
    obtain ⟨found, grownAgain, targetBound⟩ := baseFound.predicateOf f.line condition
    refine { found with subtypes := ?_ }
    intro rule mem
    rcases List.mem_append.mp mem with old | new
    · exact found.subtypes rule old
    · obtain rfl := List.mem_singleton.mp new
      exact ⟨Nat.lt_of_lt_of_le (Nat.lt_of_lt_of_le entityBound grown) grownAgain,
        Nat.lt_of_lt_of_le baseBound grownAgain, targetBound⟩

theorem Introduced.attach {declared : List String} {d : Draft}
    (introduced : Introduced declared d) (wellFormed : d.WellFormed) (f : Fact) :
    Introduced declared (d.attach f) := by
  have entityFound := (wellFormed.resolve f.line f.entity).1
  have entityIntroduced := introduced.resolve f.line f.entity
  unfold Draft.attach
  generalize d.resolve f.line f.entity = resolved at entityFound entityIntroduced ⊢
  obtain ⟨entity, d₁⟩ := resolved
  cases f.assertion with
  | hasAttribute name declaredType sample identifying =>
    exact entityIntroduced.attachAttribute entityFound f.line entity name declaredType sample
      identifying
  | relatedTo target cardinality =>
    exact (entityIntroduced.resolve f.line target).attachRelationship f.line entity _ cardinality
  | obeys rule => exact entityIntroduced.attachRule f.line entity rule
  | isA base condition =>
    exact ((entityIntroduced.resolve f.line base).predicateOf f.line condition).congr (by rfl)
      (by rfl)

/-- Facts in a row keep a draft well formed, and the entities known before stay as they are. -/
theorem attached_facts {declared : List String} {d : Draft} (wellFormed : d.WellFormed)
    (introduced : Introduced declared d) (facts : List Fact) :
    (facts.foldl Draft.attach d).WellFormed ∧ Introduced declared (facts.foldl Draft.attach d) := by
  induction facts generalizing d with
  | nil => exact ⟨wellFormed, introduced⟩
  | cons f facts ih => exact ih (wellFormed.attach f) (introduced.attach wellFormed f)

end Draft

end FactModel
