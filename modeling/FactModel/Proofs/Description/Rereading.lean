import FactModel.Proofs.Bullet.Named
import FactModel.Proofs.Bullet.Wording
import FactModel.Proofs.Description.Legible

/-!
# Bullets that are read back

What a graph has on a declared entity is written as a bullet, and the bullet is read as the fact
that it was written for.  The names of the entities must be ordinary words, and a plural must not be
mistaken for that of another entity.
-/

namespace FactModel

open Bullet Text

/-- A bullet that states something is classified as that fact, with the line and the header that it
stands under and the text that is left of it. -/
theorem Bullet.States.classify_eq {known : List String} {body : List Char}
    {content : String × Assertion} (states : States known body content) (line : Nat)
    (owner : String) :
    (contextOf line owner known body).classify = .ok (some
      { line, text := (clean body).text, owner, entity := content.1, assertion := content.2 }) := by
  rcases states line owner with ⟨f, classified, rfl⟩
  rcases Context.exists_reading classified with ⟨pattern, -, reading, -, resolved⟩
  rcases Context.of_resolve resolved with ⟨subject, assertion, isFact, -⟩
  have same : f.line = line ∧ f.text = (clean body).text ∧ f.owner = owner := by
    rw [isFact]
    exact ⟨rfl, rfl, rfl⟩
  rcases same with ⟨rfl, isText, rfl⟩
  rw [classified, ← isText]
  rfl

/-- The names of the declared entities are ordinary, and no two of them have the same key. -/
structure Graph.Worded (g : Graph) : Prop where
  ordinary : ∀ name ∈ g.declaredNames, Ordinary name
  distinct : (g.declaredNames.map Name.key).Nodup

instance (g : Graph) : Decidable g.Worded :=
  decidable_of_iff ((∀ name ∈ g.declaredNames, Ordinary name) ∧
      (g.declaredNames.map Name.key).Nodup)
    ⟨fun ⟨ordinary, distinct⟩ => ⟨ordinary, distinct⟩,
      fun ⟨ordinary, distinct⟩ => ⟨ordinary, distinct⟩⟩

namespace Description

/-! ## What may be said -/

/-- An entity that is declared. -/
def Headed (g : Graph) (i : Nat) : Prop :=
  g.entityName i ∈ g.declaredNames

instance (g : Graph) (i : Nat) : Decidable (Headed g i) :=
  inferInstanceAs (Decidable (_ ∈ _))

/-- No declared name but that of an entity is one of the names of which its plural may be the plural.
Names are compared by their keys, as a reader of the plural compares them. -/
def Unmistaken (g : Graph) (i : Nat) : Prop :=
  ∀ name ∈ g.declaredNames,
    ∀ candidate ∈ Name.singularCandidates (Name.plural (g.entityName i)),
      Name.key name = Name.key candidate → name = g.entityName i

instance (g : Graph) (i : Nat) : Decidable (Unmistaken g i) :=
  inferInstanceAs (Decidable (∀ name ∈ g.declaredNames,
    ∀ candidate ∈ Name.singularCandidates (Name.plural (g.entityName i)),
      Name.key name = Name.key candidate → name = g.entityName i))

/-- A declared entity of which so many are counted; the noun is a plural unless it is one. -/
def Counted (g : Graph) (target count : Nat) : Prop :=
  Headed g target ∧ Count.Readable count ∧ (count ≠ 1 → Unmistaken g target)

instance (g : Graph) (target count : Nat) : Decidable (Counted g target count) :=
  inferInstanceAs (Decidable (_ ∧ _ ∧ _))

/-- A rule with a pattern of letters, digits, hyphens and wildcards, if it has one. -/
def RuleWorded : AttributeRule → Prop
  | .like pattern => Coded ['-', '%'] pattern
  | _ => True

instance (rule : AttributeRule) : Decidable (RuleWorded rule) :=
  match rule with
  | .notNull => .isTrue trivial
  | .inPast => .isTrue trivial
  | .like pattern => inferInstanceAs (Decidable (Coded ['-', '%'] pattern))

def DemandWorded (g : Graph) : Demand → Prop
  | .onAttribute rule attr _ => Ordinary attr ∧ RuleWorded rule
  | .minCount target count _ => Counted g target count

instance (g : Graph) (demand : Demand) : Decidable (DemandWorded g demand) :=
  match demand with
  | .onAttribute rule attr _ => inferInstanceAs (Decidable (Ordinary attr ∧ RuleWorded rule))
  | .minCount target count _ => inferInstanceAs (Decidable (Counted g target count))

/-- A condition on a declared entity, or on an attribute that has the name of none. -/
def PredicateWorded (g : Graph) : Predicate → Prop
  | .related target count => Counted g target count
  | .hasAttribute attr => Ordinary attr ∧ ∀ name ∈ g.declaredNames, Name.key name ≠ Name.key attr

instance (g : Graph) (predicate : Predicate) : Decidable (PredicateWorded g predicate) :=
  match predicate with
  | .related target count => inferInstanceAs (Decidable (Counted g target count))
  | .hasAttribute attr => inferInstanceAs (Decidable (Ordinary attr ∧
    ∀ name ∈ g.declaredNames, Name.key name ≠ Name.key attr))

/-- What may be said of an entity: an attribute with an ordinary name and perhaps a sample of
letters, digits and hyphens, a relationship to a declared entity, a rule on an attribute or on a
number of rows, or the entity that it is a kind of.  An attribute that refers to an entity is told
as a relationship. -/
def Item.Worded (g : Graph) : Item → Prop
  | attr a => referred? g a = none ∧ Ordinary a.name ∧
    ∀ sample ∈ a.sample, sample ≠ "" ∧ Coded ['-'] sample
  | relationship r => Headed g r.target ∧ (r.cardinality = .oneToMany → Unmistaken g r.target)
  | constraint c => DemandWorded g c.demand
  | subtype rule => Headed g rule.base ∧ ∀ predicate ∈ rule.predicate, PredicateWorded g predicate

instance (g : Graph) (item : Item) : Decidable (item.Worded g) :=
  match item with
  | .attr a => inferInstanceAs (Decidable (referred? g a = none ∧ Ordinary a.name ∧
    ∀ sample ∈ a.sample, sample ≠ "" ∧ Coded ['-'] sample))
  | .relationship r => inferInstanceAs (Decidable (Headed g r.target ∧
    (r.cardinality = .oneToMany → Unmistaken g r.target)))
  | .constraint c => inferInstanceAs (Decidable (DemandWorded g c.demand))
  | .subtype rule => inferInstanceAs (Decidable (Headed g rule.base ∧
    ∀ predicate ∈ rule.predicate, PredicateWorded g predicate))

/-! ## What is said is legible -/

section Worded

variable {g : Graph} (worded : g.Worded)

include worded

theorem subject_of_headed {i : Nat} (headed : Headed g i) :
    Subject g.declaredNames (g.entityName i) :=
  (worded.ordinary _ headed).subject worded.distinct headed

theorem countable_plural {target : Nat} (headed : Headed g target)
    (unmistaken : Unmistaken g target) :
    Countable g (Name.plural (g.entityName target)) target := by
  have ordinary := worded.ordinary _ headed
  exact ⟨ordinary.noun_plural, ordinary.leadsBack_plural worded.distinct headed unmistaken⟩

theorem countLegible_of_counted {target count : Nat} (counted : Counted g target count) :
    CountLegible g target count := by
  rcases counted with ⟨headed, readable, unmistaken⟩
  have ordinary := worded.ordinary _ headed
  refine ⟨?_, readable⟩
  unfold Graph.countNoun
  split
  · exact ⟨ordinary.plain.noun, ordinary.leadsBack_self worded.distinct headed⟩
  · next many => exact countable_plural worded headed (unmistaken many)

theorem demandLegible_of_worded {demand : Demand} (demandWorded : DemandWorded g demand) :
    DemandLegible g demand := by
  cases demand with
  | minCount target count relationship => exact countLegible_of_counted worded demandWorded
  | onAttribute rule attr derived =>
    rcases demandWorded with ⟨ordinary, ruleWorded⟩
    refine ⟨ordinary.plain, ?_⟩
    cases rule with
    | notNull => exact ordinary.timeless
    | inPast => exact trivial
    | like pattern =>
      constructor
      · exact Coded.quoteless ruleWorded (by decide)
      · exact Coded.exemplary ruleWorded (by decide) (by decide)

theorem predicateLegible_of_worded {base : Nat} (headed : Headed g base) {predicate : Predicate}
    (predicateWorded : PredicateWorded g predicate) :
    PredicateLegible g (g.entityName base) predicate := by
  cases predicate with
  | related target count => exact countLegible_of_counted worded predicateWorded
  | hasAttribute attr =>
    rcases predicateWorded with ⟨ordinary, foreign⟩
    refine ⟨ordinary.plain, (foreign _ headed).symm, ?_⟩
    rw [List.any_eq_false]
    intro name mem
    simpa using foreign name mem

/-- What may be said of an entity is legible. -/
theorem legible_of_worded {item : Item} (itemWorded : item.Worded g) : item.Legible g := by
  cases item with
  | attr a =>
    rcases itemWorded with ⟨-, ordinary, samples⟩
    refine ⟨ordinary.plain, ?_⟩
    intro sample given
    rcases samples sample given with ⟨ne, coded⟩
    refine ⟨ne, coded.exemplary (by decide) ?_⟩
    unfold quoteMark
    split <;> decide
  | relationship r =>
    intro many
    exact countable_plural worded itemWorded.1 (itemWorded.2 many)
  | constraint c => exact demandLegible_of_worded worded itemWorded
  | subtype rule =>
    constructor
    · intro _
      exact (worded.ordinary _ itemWorded.1).not_categorical
    · intro predicate given
      exact predicateLegible_of_worded worded itemWorded.1 (itemWorded.2 predicate given)

end Worded

/-! ## Reading back -/

/-- What is left of a bullet without its marks is classified as a fact, whichever line it stands on
and whichever header it stands under. -/
def Rereads (known : List String) (bullet entity : String) (assertion : Assertion) : Prop :=
  ∃ body, bullet.toList = "- ".toList ++ body ∧
    ∀ line owner, (contextOf line owner known body).classify =
      .ok (some { line, text := (clean body).text, owner, entity, assertion })

/-- What a graph has on a declared entity is written as one of the bullets of the entity, and is read
back from it.  Nothing is asked of the other facts of the graph. -/
theorem rereads_of_worded {g : Graph} (positioned : Positioned g) (worded : g.Worded) {e : Entity}
    (inGraph : e ∈ g.entities) (declared : e.declared = true) {item : Item}
    (within : item.Within g) (tellsOf : item.entity = e.index) (itemWorded : item.Worded g) :
    item.bullet g ∈ bullets g e ∧
      Rereads g.declaredNames (item.bullet g) e.name (item.assertion g) := by
  have named := entityName_index positioned inGraph
  constructor
  · rw [bullets_eq positioned inGraph]
    apply List.mem_map_of_mem
    rw [mem_items_iff positioned]
    refine ⟨within, tellsOf, ?_⟩
    rintro a rfl
    exact itemWorded.1
  · have headed : Headed g item.entity := by
      rw [Headed, tellsOf, named]
      exact List.mem_map_of_mem (List.mem_filter.mpr ⟨inGraph, declared⟩)
    have tells : BulletTells g.declaredNames (item.bullet g) (item.fact g) := by
      apply tells_of_legible (subject_of_headed worded headed) _
        (legible_of_worded worded itemWorded)
      intro i mem
      apply (subject_of_headed worded _).toNamed
      cases item with
      | attr a => simp [Item.named] at mem
      | relationship r => exact List.mem_singleton.mp mem ▸ itemWorded.1
      | constraint c => simp [Item.named] at mem
      | subtype rule => exact List.mem_singleton.mp mem ▸ itemWorded.1
    rcases tells with ⟨body, isBullet, tells⟩
    refine ⟨body, isBullet, ?_⟩
    intro line owner
    rw [tells.states.classify_eq line owner, Item.fact, tellsOf, named]

/-- Boxes with a tag and several flies, of which they must have two. -/
def boxText : String :=
  "**Fly**\n**Box**\n- Box is identified by its Tag, for example 'A-1'.\n" ++
    "- Box has one or more **Flies**.\n- Box must have at least 2 **Flies**.\n"

/-- All that is said of the boxes is read back. -/
theorem rereads_boxes : ∃ g, compile boxText = .ok g ∧ g.Worded ∧
    g.told.map (Item.bullet g) =
      ["- Box is identified by its Tag, for example \"A-1\".",
        "- Box has one or more **Flies**.", "- Box must have at least 2 **Flies**."] ∧
      ∀ e ∈ g.entities, ∀ item ∈ items g e, item.bullet g ∈ bullets g e ∧
        Rereads g.declaredNames (item.bullet g) e.name (item.assertion g) := by
  have passes : compilesTo boxText (fun g => decide (g.Worded ∧
      g.told.map (Item.bullet g) =
        ["- Box is identified by its Tag, for example \"A-1\".",
          "- Box has one or more **Flies**.", "- Box must have at least 2 **Flies**."] ∧
        ∀ e ∈ g.entities, e.declared = true ∧ ∀ item ∈ items g e, item.Worded g)) = true := by
    decide +kernel
  rcases of_compilesTo passes with ⟨g, compiles, shown⟩
  rcases of_decide_eq_true shown with ⟨worded, told, itemsWorded⟩
  rcases compiled_of_compile compiles with ⟨doc, -, compiled⟩
  have positioned := Positioned.of_compiled compiled
  refine ⟨g, compiles, worded, told, ?_⟩
  intro e inGraph item mem
  rcases (mem_items_iff positioned).mp mem with ⟨within, tellsOf, -⟩
  rcases itemsWorded e inGraph with ⟨declared, eWorded⟩
  exact rereads_of_worded positioned worded inGraph declared within tellsOf (eWorded item mem)

end Description

end FactModel
