import FactModel.Proofs.Description.Items

/-!
# Legible items

What an item needs so that its bullet is read as it was meant.  Names must be plain, examples and
patterns must not end early or hold a verb, and a plural must lead back to the name it was formed
from.
-/

namespace FactModel

open Bullet Text

namespace Bullet

instance (quoted : Char × List Char) : Decidable (Exemplary quoted) :=
  decidable_of_iff ((quoted.1 ∈ Object.quoteMarks ∧ Tidy (Object.enclosed quoted.1 quoted.2)) ∧
      Free verbs quoted.2 ∧ '*' ∉ quoted.2)
    ⟨fun ⟨quotable, free, unmarked⟩ => ⟨quotable, free, unmarked⟩,
      fun ⟨quotable, free, unmarked⟩ => ⟨quotable, free, unmarked⟩⟩

theorem article_cases (name : String) : Name.article name = "a" ∨ Name.article name = "an" := by
  unfold Name.article
  split
  · exact .inr rfl
  · split
    · split
      · exact .inr rfl
      · exact .inl rfl
    · exact .inl rfl

/-- A verb in front of the article of a name. -/
theorem withArticle_cases (verb name : String) :
    verb ++ Name.article name = verb ++ "a" ∨ verb ++ Name.article name = verb ++ "an" := by
  rcases article_cases name with isA | isAn
  · exact .inl (by rw [isA])
  · exact .inr (by rw [isAn])

end Bullet

namespace Description

/-- A counted noun from which a reader gets back to the entity at a position. -/
def Countable (g : Graph) (noun : String) (target : Nat) : Prop :=
  Noun noun ∧ LeadsBack g.declaredNames noun (g.entityName target)

instance (g : Graph) (noun : String) (target : Nat) : Decidable (Countable g noun target) :=
  inferInstanceAs (Decidable (_ ∧ _))

/-- A count of rows that is read as it was meant. -/
def CountLegible (g : Graph) (target count : Nat) : Prop :=
  Countable g (Graph.countNoun (g.entityName target) count) target ∧ Count.Readable count

instance (g : Graph) (target count : Nat) : Decidable (CountLegible g target count) :=
  inferInstanceAs (Decidable (_ ∧ _))

/-- What a rule on an attribute needs to be read as it was meant: that it tells of the past just
when it is meant to, and that its pattern ends where its quotes do. -/
def RuleLegible (attr : String) : AttributeRule → Prop
  | .notNull => Timeless attr
  | .inPast => True
  | .like pattern => Quoteless pattern ∧ Exemplary ('\'', pattern.toList)

instance (attr : String) (rule : AttributeRule) : Decidable (RuleLegible attr rule) :=
  match rule with
  | .notNull => inferInstanceAs (Decidable (Timeless attr))
  | .inPast => .isTrue trivial
  | .like pattern =>
    inferInstanceAs (Decidable (Quoteless pattern ∧ Exemplary ('\'', pattern.toList)))

def DemandLegible (g : Graph) : Demand → Prop
  | .onAttribute rule attr _ => Plain attr ∧ RuleLegible attr rule
  | .minCount target count _ => CountLegible g target count

instance (g : Graph) (demand : Demand) : Decidable (DemandLegible g demand) :=
  match demand with
  | .onAttribute rule attr _ => inferInstanceAs (Decidable (Plain attr ∧ RuleLegible attr rule))
  | .minCount target count _ => inferInstanceAs (Decidable (CountLegible g target count))

/-- What a condition needs to be read as it was meant.  An attribute must not be taken for an
entity: neither for a declared one nor for the base, which stands in bold. -/
def PredicateLegible (g : Graph) (base : String) : Predicate → Prop
  | .related target count => CountLegible g target count
  | .hasAttribute attr => Plain attr ∧ Name.key attr ≠ Name.key base ∧
    g.declaredNames.any (Name.key · == Name.key attr) = false

instance (g : Graph) (base : String) (predicate : Predicate) :
    Decidable (PredicateLegible g base predicate) :=
  match predicate with
  | .related target count => inferInstanceAs (Decidable (CountLegible g target count))
  | .hasAttribute attr => inferInstanceAs (Decidable (Plain attr ∧
    Name.key attr ≠ Name.key base ∧ g.declaredNames.any (Name.key · == Name.key attr) = false))

/-- What an item needs so that its bullet is read as it was meant. -/
def Item.Legible (g : Graph) : Item → Prop
  | attr a => Plain a.name ∧
    ∀ sample ∈ a.sample, sample ≠ "" ∧ Exemplary (quoteMark sample, sample.toList)
  | relationship r => r.cardinality = .oneToMany →
    Countable g (Name.plural (g.entityName r.target)) r.target
  | constraint c => DemandLegible g c.demand
  | subtype rule =>
    (Name.article (g.entityName rule.base) = "a" → ¬Categorical (g.entityName rule.base)) ∧
      ∀ predicate ∈ rule.predicate, PredicateLegible g (g.entityName rule.base) predicate

instance (g : Graph) (item : Item) : Decidable (item.Legible g) :=
  match item with
  | .attr a => inferInstanceAs (Decidable (Plain a.name ∧
    ∀ sample ∈ a.sample, sample ≠ "" ∧ Exemplary (quoteMark sample, sample.toList)))
  | .relationship r => inferInstanceAs (Decidable (r.cardinality = .oneToMany →
    Countable g (Name.plural (g.entityName r.target)) r.target))
  | .constraint c => inferInstanceAs (Decidable (DemandLegible g c.demand))
  | .subtype rule => inferInstanceAs (Decidable ((Name.article (g.entityName rule.base) = "a" →
      ¬Categorical (g.entityName rule.base)) ∧
    ∀ predicate ∈ rule.predicate, PredicateLegible g (g.entityName rule.base) predicate))

/-- A bullet stands on a line of its own and tells a fact. -/
def BulletTells (known : List String) (line : String) (content : String × Assertion) : Prop :=
  ∃ body, line.toList = "- ".toList ++ body ∧ Tells known body content

/-! ## Attributes -/

theorem toList_typePart (g : Graph) (a : Attribute) :
    (typePart g a).toList = Object.typeSuffix (typeTold g a) := by
  rw [typePart, typeTold]
  split <;> simp [toString, Object.typeSuffix]

theorem toList_quoteSample (sample : String) :
    (quoteSample sample).toList = Object.enclosed (quoteMark sample) sample.toList := by
  rw [quoteSample, quoteMark]
  split <;> simp [toString, Object.enclosed]

/-- An attribute as it is told: its name, its type and its sample between quotes. -/
theorem toList_attributeObject (g : Graph) {a : Attribute} (nonempty : a.sample ≠ some "") :
    (attributeObject g a).toList = Object.phrase a.name (typeTold g a)
      (a.sample.map fun sample => (quoteMark sample, sample.toList)) := by
  have sample : (samplePart a).toList = Object.sampleSuffix
      (a.sample.map fun sample => (quoteMark sample, sample.toList)) := by
    cases given : a.sample with
    | none =>
      rw [samplePart, given]
      rfl
    | some sample =>
      have ne : sample ≠ "" := by
        rintro rfl
        exact nonempty given
      rw [Option.map_some, Object.sampleSuffix_some, ← toList_quoteSample]
      simp [toString, samplePart, given, ne]
  rw [attributeObject, String.toList_append, String.toList_append, toList_typePart, sample,
    Object.phrase]

/-- A declared entity is an entity that a name is found under. -/
theorem isSome_indexOf?_of_declared {g : Graph} {name : String}
    (declared : g.declaredNames.any (Name.key · == Name.key name) = true) :
    (g.indexOf? name).isSome = true := by
  obtain ⟨other, mem, same⟩ := List.any_eq_true.mp declared
  obtain ⟨e, eMem, rfl⟩ := List.mem_map.mp mem
  rw [Graph.indexOf?, Option.isSome_map, List.find?_isSome]
  exact ⟨e, (List.mem_filter.mp eMem).1, same⟩

section Bullets

variable {g : Graph} {name : String} (isSubject : Subject g.declaredNames name)

include isSubject

theorem tells_attributeBullet {a : Attribute} (legible : (Item.attr a).Legible g) :
    BulletTells g.declaredNames (attributeBullet g name a)
      (name, (Item.attr a).assertion g) := by
  obtain ⟨plain, samples⟩ := legible
  have object := toList_attributeObject g (a := a) fun given => (samples "" given).1 rfl
  have exemplary : ∀ quoted ∈ a.sample.map fun sample => (quoteMark sample, sample.toList),
      Exemplary quoted := by
    intro quoted mem
    obtain ⟨sample, given, rfl⟩ := Option.map_eq_some_iff.mp mem
    exact (samples sample given).2
  have states (identifying : Bool) : attributeAssertion a.name (typeTold g a)
      (a.sample.map fun sample => (quoteMark sample, sample.toList)) identifying =
        .hasAttribute a.name ((typeTold g a).map (·.name)) a.sample identifying := by
    rw [attributeAssertion, Option.map_map]
    simp [Function.comp_def]
  cases identifying : a.identifying with
  | true =>
    refine ⟨written name "is identified by its" (attributeObject g a).toList, ?_, ?_⟩
    · simp [toString, attributeBullet, identifying, written, sentence]
    · rw [Item.assertion, identifying, ← states true, object]
      exact tells_identifier isSubject plain exemplary
  | false =>
    refine ⟨written name ("has " ++ Name.article a.name) (attributeObject g a).toList, ?_, ?_⟩
    · simp [toString, attributeBullet, identifying, written, sentence]
    · rw [Item.assertion, identifying, ← states false, object]
      apply tells_attribute isSubject plain exemplary
      · exact withArticle_cases "has " a.name
      · intro declared
        simp [typeTold, isSome_indexOf?_of_declared declared]

theorem tells_relationshipBullet {r : Relationship}
    (named : Named g.declaredNames (g.entityName r.target))
    (legible : (Item.relationship r).Legible g) :
    BulletTells g.declaredNames (relationshipBullet name (g.entityName r.target) r.cardinality)
      (name, (Item.relationship r).assertion g) := by
  rw [Item.assertion]
  cases cardinality : r.cardinality with
  | oneToMany =>
    obtain ⟨isNoun, leadsBack⟩ := legible cardinality
    refine ⟨_, ?_, tells_oneToMany isSubject isNoun leadsBack⟩
    simp [toString, relationshipBullet, written, sentence, marked]
  | oneToOne =>
    refine ⟨_, ?_, tells_oneToOne isSubject named⟩
    simp [toString, relationshipBullet, written, sentence, marked]
  | manyToOne =>
    have isVerb := withArticle_cases "has " (g.entityName r.target)
    refine ⟨_, ?_, tells_manyToOne isSubject named isVerb⟩
    simp [toString, relationshipBullet, written, sentence, marked]

end Bullets

/-! ## Constraints and subtypes -/

theorem tells_constraintBullet {g : Graph} {c : Constraint}
    (isSubject : Subject g.declaredNames (g.entityName c.entity))
    (legible : (Item.constraint c).Legible g) :
    BulletTells g.declaredNames (constraintBullet g c)
      (g.entityName c.entity, (Item.constraint c).assertion g) := by
  obtain ⟨entity, demand, line⟩ := c
  simp only [Item.Legible] at legible
  simp only [Item.assertion] at isSubject ⊢
  cases demand with
  | minCount target count relationship =>
    obtain ⟨⟨isNoun, leadsBack⟩, readable⟩ := legible
    refine ⟨_, ?_, tells_minCount isSubject isNoun leadsBack readable⟩
    simp [toString, constraintBullet, written, sentence, marked, Count.digits]
  | onAttribute rule attr derived =>
    obtain ⟨plain, legible⟩ := legible
    have isVerb := withArticle_cases "must have " attr
    cases rule with
    | notNull =>
      refine ⟨_, ?_, tells_notNull isSubject plain isVerb legible⟩
      simp [toString, constraintBullet, Name.withArticle, written, sentence]
    | inPast =>
      refine ⟨_, ?_, tells_inPast isSubject plain isVerb⟩
      simp [toString, constraintBullet, Name.withArticle, written, sentence]
    | like pattern =>
      obtain ⟨quoteless, exemplary⟩ := legible
      refine ⟨_, ?_, tells_like isSubject plain isVerb quoteless exemplary⟩
      simp [toString, constraintBullet, Name.withArticle, written, sentence, Object.enclosed]

theorem conditionPart_none (g : Graph) : conditionPart g none = "" :=
  rfl

theorem conditionPart_related (g : Graph) (target count : Nat) :
    conditionPart g (some (.related target count)) =
      s!" with at least {count} {Graph.countNoun (g.entityName target) count}" :=
  rfl

theorem conditionPart_hasAttribute (g : Graph) (attr : String) :
    conditionPart g (some (.hasAttribute attr)) = s!" with {Name.withArticle attr}" :=
  rfl

theorem tells_subtypeBullet {g : Graph} {name : String} (isSubject : Subject g.declaredNames name)
    {rule : SubtypeRule} (named : Named g.declaredNames (g.entityName rule.base))
    (legible : (Item.subtype rule).Legible g) :
    BulletTells g.declaredNames (subtypeBullet g name rule)
      (name, (Item.subtype rule).assertion g) := by
  obtain ⟨subtype, base, predicate, line⟩ := rule
  obtain ⟨notCategorical, condition⟩ := legible
  simp only [Item.assertion] at named notCategorical condition ⊢
  have isVerb : "is " ++ Name.article (g.entityName base) = "is a" ∧
      ¬Categorical (g.entityName base) ∨ "is " ++ Name.article (g.entityName base) = "is an" := by
    rcases article_cases (g.entityName base) with isA | isAn
    · exact .inl ⟨by rw [isA]; rfl, notCategorical isA⟩
    · exact .inr (by rw [isAn]; rfl)
  cases predicate with
  | none =>
    refine ⟨_, ?_, tells_isA_none isSubject named isVerb⟩
    simp [toString, subtypeBullet, conditionPart_none, written, sentence, marked, conditionTail]
  | some predicate =>
    have legible := condition predicate rfl
    cases predicate with
    | related target count =>
      obtain ⟨⟨isNoun, leadsBack⟩, readable⟩ := legible
      refine ⟨_, ?_, tells_isA_related isSubject named isVerb isNoun leadsBack readable⟩
      simp [toString, subtypeBullet, conditionPart_related, written, sentence, marked,
        conditionTail, Count.digits]
    | hasAttribute attr =>
      obtain ⟨plain, notBase, notKnown⟩ := legible
      refine ⟨_, ?_, tells_isA_hasAttribute isSubject named isVerb plain (article_cases attr)
        notBase notKnown⟩
      simp [toString, subtypeBullet, conditionPart_hasAttribute, Name.withArticle, written, sentence,
        marked, conditionTail]

/-- The entities that an item names in bold as they are declared. -/
def Item.named : Item → List Nat
  | relationship r => [r.target]
  | subtype rule => [rule.base]
  | _ => []

/-- The bullet of a legible item states its fact. -/
theorem tells_of_legible {g : Graph} {item : Item}
    (isSubject : Subject g.declaredNames (g.entityName item.entity))
    (named : ∀ i ∈ item.named, Named g.declaredNames (g.entityName i)) (legible : item.Legible g) :
    BulletTells g.declaredNames (item.bullet g) (item.fact g) := by
  cases item with
  | attr a => exact tells_attributeBullet isSubject legible
  | relationship r =>
    exact tells_relationshipBullet isSubject (named r.target (List.mem_singleton_self _)) legible
  | constraint c => exact tells_constraintBullet isSubject legible
  | subtype rule =>
    exact tells_subtypeBullet isSubject (named rule.base (List.mem_singleton_self _)) legible

/-! ## Legible graphs -/

/-- The entities that an item mentions, in the order in which its fact is attached. -/
def Item.mentions : Item → List Nat
  | attr a => [a.entity]
  | relationship r => [r.source, r.target]
  | constraint c =>
    match c.demand with
    | .onAttribute .. => [c.entity]
    | .minCount target _ _ => [c.entity, target]
  | subtype rule =>
    match rule.predicate with
    | some (.related target _) => [rule.subtype, rule.base, target]
    | _ => [rule.subtype, rule.base]

/-- How many entities have been met, those first mentioned behind a number of known ones
included. -/
def met (known : Nat) (mentioned : List Nat) : Nat :=
  mentioned.foldl (fun known i => max known (i + 1)) known

/-- No entity is mentioned before those in front of it have been met. -/
def InOrder : (known : Nat) → List Nat → Prop
  | _, [] => True
  | known, i :: rest => i ≤ known ∧ InOrder (max known (i + 1)) rest

instance decidableInOrder : (known : Nat) → (mentioned : List Nat) →
    Decidable (InOrder known mentioned)
  | _, [] => .isTrue trivial
  | known, i :: rest =>
    have := decidableInOrder (max known (i + 1)) rest
    inferInstanceAs (Decidable (i ≤ known ∧ InOrder (max known (i + 1)) rest))

/-- The derivable relationship that an item tells, if it tells one. -/
def Item.derivable? : Item → Option Relationship
  | relationship r => if r.derivable then some r else none
  | _ => none

end Description

open Description

/-- All that the description of a graph tells. -/
def Graph.told (g : Graph) : List Item :=
  g.entities.flatMap (items g)

/-- What a graph needs so that its description is read back as it was meant. -/
structure Graph.Legible (g : Graph) : Prop where
  /-- Names are plain, and none begins with an article or is a pronoun. -/
  names : ∀ e ∈ g.entities, Plain e.name ∧ Direct e.name
  items : ∀ item ∈ g.told, item.Legible g
  /-- Undeclared entities are first mentioned in their order, and each of them is mentioned. -/
  inOrder : InOrder g.declaredNames.length (g.told.flatMap Item.mentions)
  mentioned : met g.declaredNames.length (g.told.flatMap Item.mentions) = g.entities.length
  /-- Derivable relationships are told in the order in which they were stated. -/
  settled : ∀ e ∈ g.entities,
    (Description.items g e).filterMap Item.derivable? =
      (g.outgoing e.index).filter (·.derivable)

instance (g : Graph) : Decidable g.Legible :=
  decidable_of_iff ((∀ e ∈ g.entities, Plain e.name ∧ Direct e.name) ∧
      (∀ item ∈ g.told, item.Legible g) ∧
      InOrder g.declaredNames.length (g.told.flatMap Item.mentions) ∧
      met g.declaredNames.length (g.told.flatMap Item.mentions) = g.entities.length ∧
      ∀ e ∈ g.entities, (Description.items g e).filterMap Item.derivable? =
        (g.outgoing e.index).filter (·.derivable))
    ⟨fun ⟨names, items, inOrder, mentioned, settled⟩ =>
        ⟨names, items, inOrder, mentioned, settled⟩,
      fun ⟨names, items, inOrder, mentioned, settled⟩ =>
        ⟨names, items, inOrder, mentioned, settled⟩⟩

end FactModel
