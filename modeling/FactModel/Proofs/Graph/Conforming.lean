import FactModel.Graph.Subtype
import FactModel.Proofs.Graph.Distances
import Mathlib.Data.Finset.Prod

/-!
# Subtypes as a least relation

An entity conforms to another just when the rules derive it, and whether it does is always decided:
the search opens no question twice on one way, and there are only so many of them.  What leads to an
answer along a question that is open leads to it from there, with fewer steps, so that leaving such
questions unasked loses nothing.
-/

namespace FactModel

namespace Graph

variable {g : Graph}

/-- What makes a condition hold of an entity.

* Any number includes none, and an entity is related to one row of each entity that it reaches, the
  empty chain leading to itself.
* It is related to any number of rows of another entity that it has many of or that reaches it.
* It has an attribute of a name, its own or one that it takes over. -/
inductive Meets (g : Graph) (entity : Nat) : Predicate → Prop where
  | none (target : Nat) : Meets g entity (.related target 0)
  | one {path : List Nat} {target : Nat} (chain : g.Chain entity path target) :
      Meets g entity (.related target 1)
  | many {r : Relationship} (mem : r ∈ g.relationships) (source : r.source = entity)
      (other : r.target ≠ entity) (many : r.cardinality = .oneToMany) (count : Nat) :
      Meets g entity (.related r.target count)
  | reached {path : List Nat} {target : Nat} (other : target ≠ entity)
      (chain : g.Chain target path entity) (count : Nat) : Meets g entity (.related target count)
  | explicit {a : Attribute} {name : String} (mem : a ∈ g.attributesOf entity)
      (key : Name.key a.name = Name.key name) : Meets g entity (.hasAttribute name)
  | derived {d : DerivedAttribute} {name : String} (mem : d ∈ g.derivedOf entity)
      (key : Name.key d.name = Name.key name) : Meets g entity (.hasAttribute name)

/-- The least relation on entities that the rules allow: every entity conforms to itself, to
whatever a base of its conforms to and, from a base that it conforms to, to each subtype whose
condition it meets. -/
inductive Conforms (g : Graph) : (entity other : Nat) → Prop where
  | refl (entity : Nat) : Conforms g entity entity
  | base {rule : SubtypeRule} {other : Nat} (mem : rule ∈ g.subtypeRules)
      (conforms : Conforms g rule.base other) : Conforms g rule.subtype other
  | condition {rule : SubtypeRule} {predicate : Predicate} {entity : Nat}
      (mem : rule ∈ g.subtypeRules) (hasPredicate : rule.predicate = some predicate)
      (conforms : Conforms g entity rule.base) (meets : g.Meets entity predicate) :
      Conforms g entity rule.subtype

/-! ## Conditions -/

theorem hasAttribute_iff {entity : Nat} {name : String} :
    g.hasAttribute entity name = true ↔ g.Meets entity (.hasAttribute name) := by
  rw [hasAttribute, attribute?, derivedAttribute?, Bool.or_eq_true, List.find?_isSome,
    List.find?_isSome]
  simp only [beq_iff_eq]
  constructor
  · rintro (⟨a, mem, key⟩ | ⟨d, mem, key⟩)
    · exact .explicit mem key
    · exact .derived mem key
  · intro meets
    cases meets with
    | explicit mem key => exact .inl ⟨_, mem, key⟩
    | derived mem key => exact .inr ⟨_, mem, key⟩

theorem any_outgoing_iff {entity target : Nat} :
    (g.outgoing entity).any (fun r => r.target == target && r.cardinality == .oneToMany) = true ↔
      ∃ r ∈ g.relationships, r.source = entity ∧ r.target = target ∧
        r.cardinality = .oneToMany := by
  simp only [outgoing, List.any_eq_true, List.mem_filter, beq_iff_eq, Bool.and_eq_true]
  constructor
  · rintro ⟨r, ⟨mem, source⟩, isTarget, many⟩
    exact ⟨r, mem, source, isTarget, many⟩
  · rintro ⟨r, mem, source, isTarget, many⟩
    exact ⟨r, ⟨mem, source⟩, isTarget, many⟩

end Graph

namespace Compiled

variable {doc : Document} {g : Graph} (compiled : Compiled doc g) {entity target : Nat}
  (inside : entity < g.entities.length)

include compiled inside

theorem admits_relatedCount_iff (targetInside : target < g.entities.length) {count : Nat} :
    (g.relatedCount entity target).admits count = true ↔
      g.Meets entity (.related target count) := by
  have toTarget : g.reaches entity target = true ↔ ∃ path, g.Chain entity path target :=
    compiled.reaches_iff inside
  have fromTarget : g.reaches target entity = true ↔ ∃ path, g.Chain target path entity :=
    compiled.reaches_iff targetInside
  constructor
  · intro admitted
    rw [Graph.relatedCount] at admitted
    split at admitted
    · next same =>
      subst same
      -- An entity is related to its own row, however else it leads back to itself.
      rcases Nat.le_one_iff_eq_zero_or_eq_one.mp (of_decide_eq_true admitted) with rfl | rfl
      · exact .none entity
      · exact .one (.nil entity)
    · next differs =>
      split at admitted
      · next has =>
        rcases Graph.any_outgoing_iff.mp has with ⟨r, mem, source, rfl, many⟩
        exact .many mem source (Ne.symm differs) many count
      · split at admitted
        · next reached =>
          rcases fromTarget.mp reached with ⟨path, chain⟩
          exact .reached (Ne.symm differs) chain count
        · split at admitted
          · next reaches =>
            rcases toTarget.mp reaches with ⟨path, chain⟩
            rcases Nat.le_one_iff_eq_zero_or_eq_one.mp (of_decide_eq_true admitted) with rfl | rfl
            · exact .none target
            · exact .one chain
          · rw [eq_of_beq (show (count == 0) = true from admitted)]
            exact .none target
  · intro meets
    rw [Graph.relatedCount]
    cases meets with
    | none =>
      split_ifs <;> rfl
    | one chain =>
      have reaches := toTarget.mpr ⟨_, chain⟩
      split_ifs <;> rfl
    | many mem source other many =>
      have has := Graph.any_outgoing_iff.mpr ⟨_, mem, source, rfl, many⟩
      rw [if_neg (Ne.symm other), if_pos has]
      rfl
    | reached other chain =>
      have reached := fromTarget.mpr ⟨_, chain⟩
      rw [if_neg (Ne.symm other), if_pos reached]
      split_ifs <;> rfl

/-- A condition is found to hold just when something makes it hold. -/
theorem predicateHolds_iff {predicate : Predicate}
    (closed : ∀ target count, predicate = .related target count → target < g.entities.length) :
    g.predicateHolds entity predicate = true ↔ g.Meets entity predicate := by
  cases predicate with
  | related target count => exact compiled.admits_relatedCount_iff inside (closed target count rfl)
  | hasAttribute name => exact Graph.hasAttribute_iff

end Compiled

namespace Graph

variable {g : Graph}

/-! ## The search -/

/-- A question is asked in the course of another, by a rule: one end of the pair moves to the rule's
base.  Whether the entity meets the condition of the rule is looked at afterwards. -/
inductive Asks (g : Graph) : (question next : Nat × Nat) → Prop where
  | base {rule : SubtypeRule} {other : Nat} (mem : rule ∈ g.subtypeRules) :
      Asks g (rule.subtype, other) (rule.base, other)
  | condition {rule : SubtypeRule} {predicate : Predicate} {entity : Nat}
      (mem : rule ∈ g.subtypeRules) (hasPredicate : rule.predicate = some predicate) :
      Asks g (entity, rule.subtype) (entity, rule.base)

/-- A question rests on another that is asked in its course: where that one moves to the base of a
condition, the entity meets the condition. -/
inductive RestsOn (g : Graph) : (question next : Nat × Nat) → Prop where
  | base {rule : SubtypeRule} {other : Nat} (mem : rule ∈ g.subtypeRules) :
      RestsOn g (rule.subtype, other) (rule.base, other)
  | condition {rule : SubtypeRule} {predicate : Predicate} {entity : Nat}
      (mem : rule ∈ g.subtypeRules) (hasPredicate : rule.predicate = some predicate)
      (holds : g.predicateHolds entity predicate = true) :
      RestsOn g (entity, rule.subtype) (entity, rule.base)

theorem RestsOn.asks {question next : Nat × Nat} (rests : g.RestsOn question next) :
    g.Asks question next := by
  cases rests with
  | base mem => exact .base mem
  | condition mem hasPredicate => exact .condition mem hasPredicate

/-- A question is answered when its ends are the same or one that it rests on is, unless it is open
already. -/
theorem conforms_succ_iff {bound : Nat} {opened : List (Nat × Nat)} {question : Nat × Nat} :
    g.conforms (bound + 1) opened question.1 question.2 = true ↔
      question.1 = question.2 ∨ question ∉ opened ∧ ∃ next, g.RestsOn question next ∧
        g.conforms bound (question :: opened) next.1 next.2 = true := by
  rcases question with ⟨entity, other⟩
  rw [conforms]
  split
  · next same => exact iff_of_true rfl (.inl same)
  · next differs =>
    split
    · next isOpen => simp [differs, isOpen]
    · next new =>
      rw [or_iff_right differs, and_iff_right new, Bool.or_eq_true, List.any_eq_true,
        List.any_eq_true]
      constructor
      · rintro (⟨rule, mem, asked⟩ | ⟨rule, mem, asked⟩)
        · rw [Bool.and_eq_true, beq_iff_eq] at asked
          rcases asked with ⟨rfl, answered⟩
          exact ⟨_, .base mem, answered⟩
        · split at asked
          · contradiction
          · next predicate hasPredicate =>
            rw [Bool.and_eq_true, Bool.and_eq_true, beq_iff_eq] at asked
            rcases asked with ⟨⟨rfl, answered⟩, holds⟩
            exact ⟨_, .condition mem hasPredicate holds, answered⟩
      · rintro ⟨next, rests, answered⟩
        cases rests with
        | base mem => exact .inl ⟨_, mem, by simp [answered]⟩
        | condition mem hasPredicate holds =>
          exact .inr ⟨_, mem, by simp [hasPredicate, answered, holds]⟩

/-- A way of so many steps from a question to one whose ends are the same, past none that is
open. -/
inductive Trail (g : Graph) (opened : List (Nat × Nat)) : Nat → Nat × Nat → Prop where
  | done {question : Nat × Nat} (same : question.1 = question.2) : Trail g opened 0 question
  | ask {n : Nat} {question next : Nat × Nat} (new : question ∉ opened)
      (rests : g.RestsOn question next) (onward : Trail g opened n next) :
      Trail g opened (n + 1) question

/-- A way either keeps off a question too, or a way that is no longer leads on from there. -/
theorem Trail.avoid {opened : List (Nat × Nat)} {n : Nat} {question : Nat × Nat}
    (avoided : Nat × Nat) (trail : g.Trail opened n question) :
    g.Trail (avoided :: opened) n question ∨ ∃ m ≤ n, g.Trail opened m avoided := by
  induction trail with
  | done same => exact .inl (.done same)
  | @ask n question next new rests onward ih =>
    by_cases isAvoided : question = avoided
    · exact .inr ⟨n + 1, Nat.le_refl _, isAvoided ▸ .ask new rests onward⟩
    · rcases ih with apart | ⟨m, shorter, trail⟩
      · apply Or.inl
        apply Trail.ask _ rests apart
        exact List.not_mem_cons_of_ne_of_not_mem isAvoided new
      · exact .inr ⟨m, Nat.le_succ_of_le shorter, trail⟩

theorem Trail.of_conforms {bound : Nat} {opened : List (Nat × Nat)} {question : Nat × Nat}
    (answered : g.conforms bound opened question.1 question.2 = true) :
    ∃ n, g.Trail [] n question := by
  induction bound generalizing opened question with
  | zero => exact ⟨0, .done (eq_of_beq answered)⟩
  | succ bound ih =>
    rcases conforms_succ_iff.mp answered with same | ⟨-, next, rests, onward⟩
    · exact ⟨0, .done same⟩
    · rcases ih onward with ⟨n, trail⟩
      exact ⟨n + 1, .ask List.not_mem_nil rests trail⟩

/-- The questions about the entities of a graph. -/
def questions (g : Graph) : Finset (Nat × Nat) :=
  Finset.range g.entities.length ×ˢ Finset.range g.entities.length

theorem mem_questions {question : Nat × Nat} : question ∈ g.questions ↔
    question.1 < g.entities.length ∧ question.2 < g.entities.length := by
  rw [questions, Finset.mem_product, Finset.mem_range, Finset.mem_range]

/-- Questions that are open on one way: each of them once, and all about the graph. -/
structure Opened (g : Graph) (opened : List (Nat × Nat)) : Prop where
  nodup : opened.Nodup
  inside : ∀ question ∈ opened, question ∈ g.questions

theorem Opened.nil : g.Opened [] :=
  ⟨List.nodup_nil, by simp⟩

theorem Opened.cons {opened : List (Nat × Nat)} (isOpened : g.Opened opened)
    {question : Nat × Nat} (inside : question ∈ g.questions) (new : question ∉ opened) :
    g.Opened (question :: opened) where
  nodup := List.nodup_cons.mpr ⟨new, isOpened.nodup⟩
  inside := List.forall_mem_cons.mpr ⟨inside, isOpened.inside⟩

theorem Opened.length_le {opened : List (Nat × Nat)} (isOpened : g.Opened opened) :
    opened.length ≤ g.entities.length * g.entities.length := by
  have counted : opened.toFinset.card ≤ g.questions.card := by
    apply Finset.card_le_card
    intro question mem
    exact isOpened.inside question (List.mem_toFinset.mp mem)
  rw [List.toFinset_card_of_nodup isOpened.nodup, questions, Finset.card_product,
    Finset.card_range] at counted
  exact counted

theorem Asks.inside (closed : g.Closed) {question next : Nat × Nat} (asks : g.Asks question next)
    (inside : question ∈ g.questions) : next ∈ g.questions := by
  rw [mem_questions] at inside ⊢
  cases asks with
  | base mem => exact ⟨(closed.subtypes _ mem).2.1, inside.2⟩
  | condition mem => exact ⟨inside.1, (closed.subtypes _ mem).2.1⟩

/-- A search that may still open as many questions as are not open finds whatever a way leads
to. -/
theorem Trail.conforms (closed : g.Closed) {n bound : Nat} {opened : List (Nat × Nat)}
    {question : Nat × Nat} (trail : g.Trail opened n question) (inside : question ∈ g.questions)
    (isOpened : g.Opened opened)
    (room : g.entities.length * g.entities.length < bound + opened.length) :
    g.conforms bound opened question.1 question.2 = true := by
  induction n using Nat.strong_induction_on generalizing bound opened question with
  | h n ih =>
    cases bound with
    | zero => exact absurd isOpened.length_le (by omega)
    | succ bound =>
      rw [conforms_succ_iff]
      cases trail with
      | done same => exact .inl same
      | @ask n _ next new rests onward =>
        rcases onward.avoid question with apart | ⟨m, shorter, again⟩
        · apply Or.inr
          refine ⟨new, next, rests, ?_⟩
          apply ih n (Nat.lt_succ_self n) apart (rests.asks.inside closed inside)
            (isOpened.cons inside new)
          rw [List.length_cons]
          omega
        · -- The way comes back to the question, so a shorter one answers it.
          exact conforms_succ_iff.mp (ih m (by omega) again inside isOpened room)

/-- The question asked next and the questions open then, after those before. -/
inductive Recurs (g : Graph) : (next before : List (Nat × Nat) × (Nat × Nat)) → Prop where
  | intro {opened : List (Nat × Nat)} {question next : Nat × Nat}
      (differs : question.1 ≠ question.2) (new : question ∉ opened)
      (asks : g.Asks question next) : Recurs g (question :: opened, next) (opened, question)

theorem Recurs.acc (closed : g.Closed) {opened : List (Nat × Nat)} {question : Nat × Nat}
    (isOpened : g.Opened opened) (inside : question ∈ g.questions) :
    Acc g.Recurs (opened, question) := by
  generalize left : g.entities.length * g.entities.length - opened.length = n
  induction n using Nat.strong_induction_on generalizing opened question with
  | h n ih =>
    constructor
    rintro _ ⟨-, new, asks⟩
    have more := (isOpened.cons inside new).length_le
    apply ih _ _ (isOpened.cons inside new) (asks.inside closed inside) rfl
    rw [List.length_cons] at more ⊢
    omega

end Graph

namespace Compiled

variable {doc : Document} {g : Graph} (compiled : Compiled doc g)

include compiled

/-- The ways to an answer are the derivations of the relation. -/
theorem conforms_iff_trail {entity other : Nat} (inside : entity < g.entities.length)
    (otherInside : other < g.entities.length) :
    g.Conforms entity other ↔ ∃ n, g.Trail [] n (entity, other) := by
  constructor
  · intro conforms
    induction conforms with
    | refl entity => exact ⟨0, .done rfl⟩
    | base mem _ ih =>
      rcases ih (compiled.closed.subtypes _ mem).2.1 otherInside with ⟨n, trail⟩
      exact ⟨n + 1, .ask List.not_mem_nil (.base mem) trail⟩
    | condition mem hasPredicate _ meets ih =>
      have ruled := compiled.closed.subtypes _ mem
      rcases ih inside ruled.2.1 with ⟨n, trail⟩
      have holds := (compiled.predicateHolds_iff inside fun target count isRelated =>
        ruled.2.2 target count (hasPredicate.trans (congrArg some isRelated))).mpr meets
      exact ⟨n + 1, .ask List.not_mem_nil (.condition mem hasPredicate holds) trail⟩
  · rintro ⟨n, trail⟩
    generalize asked : (entity, other) = question at trail
    induction trail generalizing entity other with
    | done same =>
      subst asked
      rw [show entity = other from same]
      exact .refl other
    | ask _ rests _ ih =>
      subst asked
      cases rests with
      | base mem =>
        exact .base mem (ih (compiled.closed.subtypes _ mem).2.1 otherInside rfl)
      | @condition rule predicate _ mem hasPredicate holds =>
        have ruled := compiled.closed.subtypes _ mem
        have meets := (compiled.predicateHolds_iff inside fun target count isRelated =>
          ruled.2.2 target count (hasPredicate.trans (congrArg some isRelated))).mp holds
        exact .condition mem hasPredicate (ih inside ruled.2.1 rfl) meets

/-- With room for all questions the search finds just what conforms. -/
theorem conforms_iff {entity other : Nat} (inside : entity < g.entities.length)
    (otherInside : other < g.entities.length) {bound : Nat}
    (room : g.entities.length * g.entities.length < bound) :
    g.conforms bound [] entity other = true ↔ g.Conforms entity other := by
  rw [compiled.conforms_iff_trail inside otherInside]
  constructor
  · intro answered
    exact Graph.Trail.of_conforms answered
  · rintro ⟨n, trail⟩
    exact trail.conforms compiled.closed (Graph.mem_questions.mpr ⟨inside, otherInside⟩) .nil
      (by simpa using room)

end Compiled

namespace Graph

/-- Whether an entity conforms to another is decided.

* No question is asked after another without end.
* The answer is the least relation's.
* No search with more room answers differently. -/
structure Decided (g : Graph) (entity other : Nat) : Prop where
  terminates : Acc g.Recurs ([], entity, other)
  least : g.isSubtype entity other = true ↔ g.Conforms entity other
  settled : ∀ bound, g.entities.length * g.entities.length < bound →
    g.conforms bound [] entity other = g.isSubtype entity other

end Graph

/-- In a compiled graph it is decided whether one entity conforms to another, and it does just when
the least relation that the rules allow has the pair. -/
theorem decided_of_compile {text : String} {g : Graph} (compiles : compile text = .ok g)
    {entity other : Nat} (inside : entity < g.entities.length)
    (otherInside : other < g.entities.length) : g.Decided entity other := by
  rcases compiled_of_compile compiles with ⟨doc, -, compiled⟩
  have least : g.isSubtype entity other = true ↔ g.Conforms entity other :=
    compiled.conforms_iff inside otherInside (Nat.lt_succ_self _)
  constructor
  · exact Graph.Recurs.acc compiled.closed .nil (Graph.mem_questions.mpr ⟨inside, otherInside⟩)
  · exact least
  · intro bound room
    rw [Bool.eq_iff_iff, least]
    exact compiled.conforms_iff inside otherInside room

/-- Two entities are subtypes of each other, and one of them is a subtype of a third. -/
def roundText : String :=
  "**A**\n- A is a type of B.\n**B**\n- B is a type of A.\n- B is a type of C with a Size.\n" ++
    "**C**\n- C has a Size.\n"

/-- The question that comes back to itself is left alone, and the other rule answers it. -/
theorem decided_across_round : ∃ g, compile roundText = .ok g ∧
    g.subtypeRules.map (fun rule => (rule.subtype, rule.base)) = [(0, 1), (1, 0), (1, 2)] ∧
      g.isSubtype 0 2 = true ∧ 0 < g.entities.length ∧ 2 < g.entities.length ∧
        g.Decided 0 2 := by
  have passes : compilesTo roundText (fun g => decide (
      g.subtypeRules.map (fun rule => (rule.subtype, rule.base)) = [(0, 1), (1, 0), (1, 2)] ∧
      g.isSubtype 0 2 = true ∧ 0 < g.entities.length ∧ 2 < g.entities.length)) = true := by
    decide +kernel
  rcases of_compilesTo passes with ⟨g, compiles, shown⟩
  rcases of_decide_eq_true shown with ⟨rules, found, inside, otherInside⟩
  exact ⟨g, compiles, rules, found, inside, otherInside,
    decided_of_compile compiles inside otherInside⟩

end FactModel
