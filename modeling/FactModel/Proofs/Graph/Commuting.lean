import FactModel.Proofs.Graph.Attaching
import FactModel.Proofs.Graph.Portions
import FactModel.Proofs.Graph.Reordering

/-!
# Facts about different entities commute

A fact that mentions known entities only reads and changes the portion of its subject.  Facts may
therefore be attached in any order that keeps the facts about each entity in their order: the portions
come out the same, and the same diagnostics are recorded.
-/

namespace FactModel

/-! ## Mentioned names -/

/-- The entities that a rule mentions besides its subject. -/
def Rule.mentions : Rule → List String
  | .minCount target _ => [target]
  | _ => []

/-- The entities that a condition mentions. -/
def Condition.mentions : Condition → List String
  | .related target _ => [target]
  | .hasAttribute _ => []

/-- The entities that an assertion mentions besides its subject. -/
def Assertion.mentions : Assertion → List String
  | .hasAttribute .. => []
  | .relatedTo target _ => [target]
  | .obeys rule => rule.mentions
  | .isA base condition => base :: condition.elim [] Condition.mentions

/-- The entities that a fact mentions, its subject first. -/
def Fact.mentions (f : Fact) : List String :=
  f.entity :: f.assertion.mentions

open Arena

namespace Draft

/-! ## Changes in step -/

theorem WellFormed.noting {d : Draft} (wellFormed : d.WellFormed) (notes : List Diagnostic) :
    (d.noting notes).WellFormed :=
  ⟨wellFormed.placed, wellFormed.apart, wellFormed.told, wellFormed.rules, wellFormed.subtypes⟩

/-- Two drafts are the same to an entity: they have the same entities, and the same portion of it. -/
structure Alike (i : Nat) (d e : Draft) : Prop where
  left : d.WellFormed
  right : e.WellFormed
  heads : d.heads = e.heads
  portion : d.portion i = e.portion i

/-- Two drafts are changed alike in the portion of an entity and nowhere else, and the same is
recorded. -/
structure InStep (i : Nat) (d e d' e' : Draft) : Prop where
  heads : d'.heads = d.heads ∧ e'.heads = e.heads
  portion : d'.portion i = e'.portion i
  others : ∀ j ≠ i, d'.portion j = d.portion j ∧ e'.portion j = e.portion j
  notes : ∃ notes, d'.diagnostics = d.diagnostics ++ notes ∧ e'.diagnostics = e.diagnostics ++ notes

namespace InStep

variable {i : Nat} {d e d' e' : Draft} (inStep : InStep i d e d' e')

theorem refl (portion : d.portion i = e.portion i) : InStep i d e d e :=
  ⟨⟨rfl, rfl⟩, portion, fun _ _ => ⟨rfl, rfl⟩, [], by simp⟩

include inStep

theorem noting (added : List Diagnostic) : InStep i d e (d'.noting added) (e'.noting added) := by
  obtain ⟨heads, portion, others, notes, left, right⟩ := inStep
  refine ⟨heads, portion, others, notes ++ added, ?_, ?_⟩
  · rw [Draft.noting, left, List.append_assoc]
  · rw [Draft.noting, right, List.append_assoc]

theorem warn (line : Nat) (finding : Finding) :
    InStep i d e (d'.warn line finding) (e'.warn line finding) :=
  inStep.noting [{ finding, line }]

/-- A change that adds to the portion of the entity, and leaves the entities and the notes. -/
theorem change {d'' e'' : Draft} (heads : d''.heads = d'.heads ∧ e''.heads = e'.heads)
    (diagnostics : d''.diagnostics = d'.diagnostics ∧ e''.diagnostics = e'.diagnostics)
    (f : Portion → Portion)
    (portions : ∀ j, d''.portion j = (if i = j then f (d'.portion j) else d'.portion j) ∧
      e''.portion j = if i = j then f (e'.portion j) else e'.portion j) :
    InStep i d e d'' e'' := by
  refine ⟨⟨heads.1.trans inStep.heads.1, heads.2.trans inStep.heads.2⟩, ?_, ?_, ?_⟩
  · rw [(portions i).1, (portions i).2, if_pos rfl, if_pos rfl, inStep.portion]
  · intro j other
    rw [(portions j).1, (portions j).2, if_neg other.symm, if_neg other.symm]
    exact inStep.others j other
  · rw [diagnostics.1, diagnostics.2]
    exact inStep.notes

theorem addAttribute {a : Attribute} (owner : a.entity = i) :
    InStep i d e (d'.addAttribute a) (e'.addAttribute a) := by
  subst owner
  exact inStep.change ⟨heads_addAttribute a, heads_addAttribute a⟩ ⟨rfl, rfl⟩
    (fun p => { p with attributes := p.attributes ++ [a.unplaced] })
    fun j => ⟨portion_addAttribute a j, portion_addAttribute a j⟩

theorem setAttribute (left : d'.WellFormed) (right : e'.WellFormed) {old : Attribute} {k : Nat}
    (mem : old ∈ d'.attributes) (mem' : { old with index := k } ∈ e'.attributes) (new : Attribute)
    (index : new.index = old.index) (owner : new.entity = old.entity) (ofEntity : old.entity = i) :
    InStep i d e (d'.setAttribute new) (e'.setAttribute { new with index := k }) := by
  subst ofEntity
  let replace (a : Attribute) := if Name.key a.name = Name.key old.name then new.unplaced else a
  exact inStep.change ⟨rfl, rfl⟩ ⟨rfl, rfl⟩
    (fun p => { p with attributes := p.attributes.map replace })
    fun j => ⟨portion_setAttribute left mem new index owner j,
      portion_setAttribute right mem' { new with index := k } rfl owner j⟩

/-- A relationship is added at the end, wherever that is. -/
theorem addRelationship (target : Nat) (cardinality : Cardinality) (line m n : Nat) :
    InStep i d e
      { d' with relationships := d'.relationships ++ [⟨m, i, target, cardinality, line⟩] }
      { e' with relationships := e'.relationships ++ [⟨n, i, target, cardinality, line⟩] } :=
  inStep.change ⟨rfl, rfl⟩ ⟨rfl, rfl⟩
    (fun p => { p with relationships := p.relationships ++ [⟨0, i, target, cardinality, line⟩] })
    fun j => ⟨portion_addRelationship ⟨m, i, target, cardinality, line⟩ j,
      portion_addRelationship ⟨n, i, target, cardinality, line⟩ j⟩

theorem setAside (line : Nat) (demand : PendingDemand) :
    InStep i d e (d'.setAside line i demand) (e'.setAside line i demand) :=
  inStep.change ⟨rfl, rfl⟩ ⟨rfl, rfl⟩
    (fun p => { p with rules := p.rules ++ [{ entity := i, demand, line }] })
    fun j => ⟨portion_setAside line i demand j, portion_setAside line i demand j⟩

theorem addSubtype {rule : SubtypeRule} (subtype : rule.subtype = i) :
    InStep i d e { d' with subtypes := d'.subtypes ++ [rule] }
      { e' with subtypes := e'.subtypes ++ [rule] } := by
  subst subtype
  exact inStep.change ⟨rfl, rfl⟩ ⟨rfl, rfl⟩
    (fun p => { p with subtypes := p.subtypes ++ [rule] })
    fun j => ⟨portion_addSubtype rule j, portion_addSubtype rule j⟩

end InStep

/-! ## What a fact reads -/

/-- Finding a type leaves the same notes in every draft. -/
theorem typeOf_eq (line : Nat) (name : String) (declaredType : Option String) :
    ∃ type typeDeclared notes, ∀ d : Draft,
      d.typeOf line name declaredType = (type, typeDeclared, d.noting notes) := by
  have quiet (d : Draft) : d = d.noting [] := by simp [noting]
  unfold typeOf
  cases declaredType with
  | none => exact ⟨_, _, [], fun d => by rw [← quiet]⟩
  | some word =>
    by_cases empty : word = ""
    · exact ⟨_, _, [], fun d => by simp only [empty, if_true, ← quiet]; rfl⟩
    · cases declared : SemanticType.ofDeclaration? word with
      | none => exact ⟨_, _, _, fun d => by simp only [empty, if_false, declared]; rfl⟩
      | some type => exact ⟨_, _, [], fun d => by simp only [empty, if_false, declared, ← quiet]; rfl⟩

/-- Attributes that are found alike are the same but for their places. -/
theorem find?_cases {x y : Option Attribute}
    (same : x.map Attribute.unplaced = y.map Attribute.unplaced) :
    (x = none ∧ y = none) ∨ ∃ a j, x = some a ∧ y = some { a with index := j } := by
  cases x with
  | none => exact .inl ⟨rfl, by simpa using same.symm⟩
  | some a =>
    obtain ⟨b, rfl, unplaced⟩ := Option.map_eq_some_iff.mp same.symm
    exact .inr ⟨a, b.index, rfl, by rw [← Attribute.eq_of_unplaced unplaced.symm]⟩

namespace Alike

variable {i : Nat} {d e : Draft} (alike : Alike i d e)

include alike

theorem inStep : InStep i d e d e :=
  .refl alike.portion

theorem find? {p : Attribute → Bool} (placeless : ∀ a, p a.unplaced = p a) :
    ((d.attributesOf i).find? p).map Attribute.unplaced =
      ((e.attributesOf i).find? p).map Attribute.unplaced := by
  rw [map_find?_attributesOf alike.left.placed placeless,
    map_find?_attributesOf alike.right.placed placeless, alike.portion]

theorem attribute? (name : String) : (d.attribute? i name).map Attribute.unplaced =
    (e.attribute? i name).map Attribute.unplaced :=
  alike.find? fun _ => rfl

theorem attachAttribute (line : Nat) (name : String) (declaredType sample : Option String)
    (identifying : Bool) :
    InStep i d e (d.attachAttribute line i name declaredType sample identifying)
      (e.attachAttribute line i name declaredType sample identifying) := by
  obtain ⟨type, typeDeclared, notes, typed⟩ := typeOf_eq line name declaredType
  have names := congrFun (entityName_congr alike.heads) i
  simp -zeta only [Draft.attachAttribute, typed]
  extract_lets owner current clash d₂ kept owner' current' clash' e₂ kept'
  have owners : owner = owner' := names
  have clashes : clash.map Attribute.unplaced = clash'.map Attribute.unplaced := by
    have ids : current.map Attribute.unplaced = current'.map Attribute.unplaced :=
      alike.find? fun _ => rfl
    clear_value current current'
    rcases find?_cases ids with ⟨rfl, rfl⟩ | ⟨a, j, rfl, rfl⟩
    · rfl
    · simp only [clash, clash']
      split
      · simp only [Option.filter_some]
        split <;> rfl
      · rfl
  clear_value clash clash' owner owner'
  subst owners
  -- Up to here both drafts were given the same notes, and nothing else.
  obtain ⟨told, dTold, eTold⟩ : ∃ told, d₂ = d.noting told ∧ e₂ = e.noting told := by
    rcases find?_cases clashes with ⟨rfl, rfl⟩ | ⟨a, j, rfl, rfl⟩
    · exact ⟨notes, rfl, rfl⟩
    · exact ⟨notes ++ [_], by simp [d₂, noting, warn]; rfl, by simp [e₂, noting, warn]⟩
  have keeps : kept = kept' := by
    rcases find?_cases clashes with ⟨rfl, rfl⟩ | ⟨a, j, rfl, rfl⟩ <;> rfl
  clear_value d₂ e₂ kept kept'
  subst dTold eTold keeps
  have noted := alike.inStep.noting told
  have unnoted (d : Draft) : (d.noting told).attribute? i name = d.attribute? i name := rfl
  rcases find?_cases (alike.attribute? name) with ⟨dMissing, eMissing⟩ | ⟨old, j, dFound, eFound⟩
  · simp only [unnoted, dMissing, eMissing]
    exact noted.addAttribute rfl
  · obtain ⟨mem, ofEntity, -⟩ := of_attribute?_eq_some alike.left.placed dFound
    have mem' := (of_attribute?_eq_some alike.right.placed eFound).1
    have left := alike.left.noting
    have right := alike.right.noting
    simp only [unnoted, dFound, eFound]
    by_cases reference : old.references.isSome = true
    · simp only [reference, Bool.true_or, if_true]
      exact noted.warn line _
    · simp only [reference, Bool.false_or, Bool.false_eq_true, if_false]
      split
      · exact (noted.warn line _).setAttribute ((left _).warn line _) ((right _).warn line _) mem
          mem' _ rfl rfl ofEntity
      · exact noted.setAttribute (left _) (right _) mem mem' _ rfl rfl ofEntity

/-- A search among the relationships of the entity that does not mind their places. -/
theorem any_relationship {p : Relationship → Bool} (placeless : ∀ r, p r.unplaced = p r) :
    (d.relationships.any fun r => r.source == i && p r) =
      e.relationships.any fun r => r.source == i && p r := by
  have shown (d : Draft) : (d.relationships.any fun r => r.source == i && p r) =
      (d.portion i).relationships.any p := by
    rw [← List.any_filter, Draft.portion, List.any_map]
    congr 1
    funext r
    exact (placeless r).symm
  rw [shown, shown, alike.portion]

theorem attachRelationship (line target : Nat) (cardinality : Cardinality) :
    InStep i d e (d.attachRelationship line i target cardinality)
      (e.attachRelationship line i target cardinality) := by
  have again := alike.any_relationship (p := fun r =>
    r.target == target && r.derivable == cardinality.isSingle) fun _ => rfl
  simp only [← Bool.and_assoc] at again
  unfold Draft.attachRelationship
  extract_lets dAgain sourceName targetName dNext eAgain sourceName' targetName' eNext
  have sources : sourceName = sourceName' := congrFun (entityName_congr alike.heads) i
  have targets : targetName = targetName' := congrFun (entityName_congr alike.heads) target
  have sameAgain : dAgain = eAgain := again
  have related : InStep i d e dNext eNext := alike.inStep.addRelationship target cardinality line _ _
  have taken : (dNext.attribute? i targetName).isSome = (eNext.attribute? i targetName).isSome := by
    have same := congrArg Option.isSome (alike.attribute? targetName)
    rw [Option.isSome_map, Option.isSome_map] at same
    exact same
  clear_value dAgain eAgain sourceName sourceName' targetName targetName'
  subst sources targets sameAgain
  split
  · exact alike.inStep.warn line _
  · split
    · rw [taken]
      split
      · exact related.warn line _
      · exact related.addAttribute rfl
    · exact related

theorem attachRule (line : Nat) {rule : Rule} (known : ∀ name ∈ rule.mentions, d.Knows name) :
    InStep i d e (d.attachRule line i rule) (e.attachRule line i rule) := by
  cases rule with
  | minCount target count =>
    have targetKnown := known target List.mem_cons_self
    simp only [Draft.attachRule, resolve_eq targetKnown, resolve_eq (targetKnown.congr alike.heads),
      position_congr alike.heads target]
    exact alike.inStep.setAside line _
  | _ => exact alike.inStep.setAside line _

theorem predicateOf (line : Nat) {condition : Option Condition}
    (known : ∀ name ∈ condition.elim [] Condition.mentions, d.Knows name) :
    ∃ predicate, d.predicateOf line condition = (predicate, d) ∧
      e.predicateOf line condition = (predicate, e) := by
  match condition with
  | none => exact ⟨_, rfl, rfl⟩
  | some (.hasAttribute name) => exact ⟨_, rfl, rfl⟩
  | some (.related target count) =>
    have targetKnown := known target List.mem_cons_self
    simp only [Draft.predicateOf, resolve_eq targetKnown, resolve_eq (targetKnown.congr alike.heads),
      position_congr alike.heads target]
    exact ⟨_, rfl, rfl⟩

end Alike

/-- A fact that mentions known entities reads and changes the portion of its subject alone. -/
theorem inStep_attach {d e : Draft} {f : Fact} (known : ∀ name ∈ f.mentions, d.Knows name)
    (alike : Alike (d.position f.entity) d e) :
    InStep (d.position f.entity) d e (d.attach f) (e.attach f) := by
  have subject := known f.entity List.mem_cons_self
  have others : ∀ name ∈ f.assertion.mentions, d.Knows name :=
    fun name mem => known name (List.mem_cons_of_mem _ mem)
  unfold attach
  simp only [resolve_eq subject, resolve_eq (subject.congr alike.heads),
    ← position_congr alike.heads f.entity]
  generalize d.position f.entity = i at alike ⊢
  generalize f.assertion = assertion at others ⊢
  cases assertion with
  | hasAttribute name declaredType sample identifying =>
    exact alike.attachAttribute f.line name declaredType sample identifying
  | relatedTo target cardinality =>
    have target := others target List.mem_cons_self
    simp only [resolve_eq target, resolve_eq (target.congr alike.heads),
      ← position_congr alike.heads _]
    exact alike.attachRelationship f.line _ cardinality
  | obeys rule => exact alike.attachRule f.line others
  | isA base condition =>
    have base := others base List.mem_cons_self
    obtain ⟨predicate, left, right⟩ := alike.predicateOf f.line
      fun name mem => others name (List.mem_cons_of_mem _ mem)
    simp only [resolve_eq base, resolve_eq (base.congr alike.heads),
      ← position_congr alike.heads _, left, right]
    exact alike.inStep.addSubtype rfl

/-! ## Runs -/

/-- Drafts with the same entities and the same portion of each of them, and with the same
diagnostics in some order. -/
structure Regrouped (d e : Draft) : Prop where
  left : d.WellFormed
  right : e.WellFormed
  heads : d.heads = e.heads
  portion : ∀ i, d.portion i = e.portion i
  diagnostics : d.diagnostics.Perm e.diagnostics

/-- Relationships of two drafts are the same, but for the order of those that start at different
entities. -/
def RelatedAlike (d e : Draft) : Prop :=
  ∀ j, (d.portion j).relationships = (e.portion j).relationships

theorem RelatedAlike.exists_eq {d e : Draft} (related : RelatedAlike d e) {r : Relationship}
    (mem : r ∈ d.relationships) : ∃ s ∈ e.relationships, r.unplaced = s.unplaced := by
  have shown : r.unplaced ∈ (d.portion r.source).relationships :=
    List.mem_map_of_mem (List.mem_filter.mpr ⟨mem, by simp⟩)
  rw [related] at shown
  obtain ⟨s, sMem, same⟩ := List.mem_map.mp shown
  exact ⟨s, List.mem_of_mem_filter sMem, same.symm⟩

theorem Regrouped.related {d e : Draft} (regrouped : Regrouped d e) : RelatedAlike d e :=
  fun j => congrArg Portion.relationships (regrouped.portion j)

/-- Attaching facts about different entities to a draft with the entities of a given one. -/
theorem separate_attach (first : Draft) : Separate (fun f : Fact => first.position f.entity)
    (fun d f => (.ok (d.attach f) : Except Rejection Draft))
    (fun i d e => Alike i d e ∧ d.heads = first.heads) diagnostics
    (fun f => ∀ name ∈ f.mentions, first.Knows name) where
  symm := fun ⟨alike, heads⟩ =>
    ⟨⟨alike.right, alike.left, alike.heads.symm, alike.portion.symm⟩, alike.heads.symm.trans heads⟩
  trans := fun ⟨one, heads⟩ ⟨other, _⟩ =>
    ⟨⟨one.left, other.right, one.heads.trans other.heads, one.portion.trans other.portion⟩, heads⟩
  reads := by
    rintro f d e known ⟨alike, heads⟩
    rw [← position_congr heads f.entity] at alike ⊢
    have inStep := inStep_attach (fun name mem => (known name mem).congr heads.symm) alike
    refine .inl ⟨_, _, rfl, rfl, ⟨⟨?_, ?_⟩, inStep.notes⟩⟩
    · exact ⟨alike.left.attach f, alike.right.attach f,
        inStep.heads.1.trans (alike.heads.trans inStep.heads.2.symm), inStep.portion⟩
    · rw [inStep.heads.1, heads]
  keeps := by
    rintro f i d _ known other ⟨alike, heads⟩ ⟨⟩
    rw [← position_congr heads f.entity] at other
    have inStep := inStep_attach (fun name mem => (known name mem).congr heads.symm)
      ⟨alike.left, alike.left, rfl, rfl⟩
    exact ⟨⟨alike.left, alike.left.attach f, inStep.heads.1.symm, ((inStep.others i other).1).symm⟩,
      heads⟩

/-- The facts about each entity are the same when those about each name are. -/
theorem filter_position_eq {d : Draft} (wellFormed : d.WellFormed) {l l' : List Fact}
    (known : ∀ f ∈ l, d.Knows f.entity)
    (same : ∀ name, l.filter (Name.key ·.entity == Name.key name) =
      l'.filter (Name.key ·.entity == Name.key name)) (i : Nat) :
    l.filter (d.position ·.entity == i) = l'.filter (d.position ·.entity == i) := by
  have mem_iff (f : Fact) : f ∈ l ↔ f ∈ l' := by
    have sameHere := congrArg (f ∈ ·) (same f.entity)
    simpa using sameHere
  by_cases about : ∃ f ∈ l, d.position f.entity = i
  · obtain ⟨f, mem, rfl⟩ := about
    have agree {l : List Fact} (allKnown : ∀ g ∈ l, d.Knows g.entity) :
        l.filter (d.position ·.entity == d.position f.entity) =
          l.filter (Name.key ·.entity == Name.key f.entity) := by
      refine List.filter_congr fun g gMem => ?_
      rw [Bool.eq_iff_iff, beq_iff_eq, beq_iff_eq]
      exact (allKnown g gMem).position_eq_iff (known f mem) wellFormed
    rw [agree known, agree fun g gMem => known g ((mem_iff g).mpr gMem), same]
  · have none {l : List Fact} (inside : ∀ g ∈ l, ¬d.position g.entity = i) :
        l.filter (d.position ·.entity == i) = [] :=
      List.filter_eq_nil_iff.mpr fun g gMem => by simpa using inside g gMem
    rw [none fun g gMem here => about ⟨g, gMem, here⟩,
      none fun g gMem here => about ⟨g, (mem_iff g).mpr gMem, here⟩]

/-- Facts that mention known entities may be attached in any order that keeps the facts about each
entity in theirs. -/
theorem regrouped_attach {d : Draft} (wellFormed : d.WellFormed) {l l' : List Fact}
    (known : ∀ f ∈ l, ∀ name ∈ f.mentions, d.Knows name)
    (same : ∀ name, l.filter (Name.key ·.entity == Name.key name) =
      l'.filter (Name.key ·.entity == Name.key name)) :
    Regrouped (l.foldl attach d) (l'.foldl attach d) := by
  have subjects (f : Fact) (mem : f ∈ l) := known f mem f.entity List.mem_cons_self
  have ends := (separate_attach d).run_reorder known (filter_position_eq wellFormed subjects same)
    (s := d) (t := d) ⟨fun i => ⟨⟨wellFormed, wellFormed, rfl, rfl⟩, rfl⟩, .refl _⟩
  have pure (facts : List Fact) :
      facts.foldlM (fun d f => (.ok (d.attach f) : Except Rejection Draft)) d =
        .ok (facts.foldl attach d) := List.foldlM_pure
  rw [pure, pure] at ends
  cases ends with
  | ok agrees =>
    obtain ⟨alike, -⟩ := agrees.1 0
    exact ⟨alike.left, alike.right, alike.heads, fun i => (agrees.1 i).1.portion, agrees.2⟩

end Draft

end FactModel
