import FactModel.Proofs.Bullet.Miscounts
import FactModel.Proofs.Document.Places
import FactModel.Proofs.Graph.Compiling

/-!
# Texts that are not rejected and have no graph

A text compiles to a graph or is rejected, unless a count in digits denotes no number.  This happens
at the first line that stops the reading: a bullet, or prose that is looked at as if it were one,
below a header, in which a pattern meets such a count.  No look-up fails on the way: every position
that a draft stores is in range, at each pass over the document.
-/

namespace FactModel

namespace Line

/-- A line meets a count that is no number, below others. -/
inductive Miscounts (known : List String) (above : List (Nat × Line)) (number : Nat)
    (e : CountError) : Line → Prop where
  | bullet {owner : String} {body : List Char} (owned : ownerAbove above = some owner)
    (miscounts : (Bullet.contextOf number owner known body).Miscounts e) :
    Miscounts known above number e (.bullet body)
  | prose {owner : String} {text : List Char} (beyond : describesAbove above = false)
    (owned : ownerAbove above = some owner)
    (miscounts : (Bullet.contextOf number owner known text).Miscounts e) :
    Miscounts known above number e (.prose text)

/-- A line stops the reading: it is a bullet above all headers, or it meets a count that is no
number. -/
def Stops (known : List String) (above : List (Nat × Line)) (number : Nat) (line : Line) : Prop :=
  (line.isBullet = true ∧ ownerAbove above = none) ∨ ∃ e, line.Miscounts known above number e

variable {known : List String} {above : List (Nat × Line)} {number : Nat} {line : Line}

theorem ofLine_eq_count_iff {e : CountError} :
    Outcome.ofLine known (Outcome.Place.top.behind above) number line = .error (.count e) ↔
      line.Miscounts known above number e := by
  rw [Outcome.Place.behind_top]
  constructor
  · intro stopped
    cases Outcome.fails_of_ofLine stopped with
    | bullet owned fails => exact .bullet owned (Bullet.Context.classify_eq_error_iff.mp fails)
    | prose beyond owned fails =>
      exact .prose beyond owned (Bullet.Context.classify_eq_error_iff.mp fails)
  · rintro (⟨owned, miscounts⟩ | ⟨beyond, owned, miscounts⟩)
    · have fails := Bullet.Context.classify_eq_error_iff.mpr miscounts
      simp only [Outcome.ofLine, Outcome.ofBullet, owned, fails]
      rfl
    · have fails := Bullet.Context.classify_eq_error_iff.mpr miscounts
      simp only [Outcome.ofLine, Outcome.ofProse, beyond, owned, Outcome.readsLikeFact_eq, fails]
      rfl

theorem ofLine_eq_error_iff :
    (∃ failure, Outcome.ofLine known (Outcome.Place.top.behind above) number line =
      .error failure) ↔ line.Stops known above number := by
  constructor
  · rintro ⟨failure, stopped⟩
    have fails := Outcome.fails_of_ofLine stopped
    rw [Outcome.Place.behind_top] at fails
    cases failure with
    | count e => exact .inr ⟨e, ofLine_eq_count_iff.mp stopped⟩
    | orphanBullet n =>
      cases fails with
      | orphan top => exact .inl ⟨rfl, top⟩
  · rintro (⟨isBullet, top⟩ | ⟨e, miscounts⟩)
    · cases line with
      | bullet body =>
        refine ⟨.orphanBullet number, ?_⟩
        rw [Outcome.Place.behind_top]
        simp only [Outcome.ofLine, top]
      | fenced | blank | header name description text | heading | prose text => contradiction
    · exact ⟨.count e, ofLine_eq_count_iff.mpr miscounts⟩

end Line

namespace Trace

open Outcome (Place)

variable {known : List String} {place : Place} {ls : List (Nat × Line)}

/-- Reading stops at the first line at which it fails. -/
theorem failure_eq_some_iff {failure : ReadError} :
    (ofLines known place ls).failure = some failure ↔
      ∃ above n line below, ls = above ++ (n, line) :: below ∧
        (ofLines known place above).failure = none ∧
        Outcome.ofLine known (place.behind above) n line = .error failure := by
  induction ls generalizing place with
  | nil => simp [ofLines]
  | cons l rest ih =>
    obtain ⟨m, first⟩ := l
    cases here : Outcome.ofLine known place m first with
    | error stopped =>
      simp only [ofLines, here, Option.some.injEq]
      constructor
      · rintro rfl
        exact ⟨[], m, first, rest, rfl, rfl, here⟩
      · rintro ⟨above, n, line, below, cut, read, failed⟩
        cases above with
        | nil =>
          cases cut
          exact Except.error.inj (here.symm.trans failed)
        | cons _ above =>
          cases cut
          simp [ofLines, here] at read
    | ok outcome =>
      simp only [ofLines, here]
      rw [ih]
      constructor
      · rintro ⟨above, n, line, below, rfl, read, failed⟩
        exact ⟨(m, first) :: above, n, line, below, rfl, by simp [ofLines, here, read], failed⟩
      · rintro ⟨above, n, line, below, cut, read, failed⟩
        cases above with
        | nil =>
          cases cut
          cases here.symm.trans failed
        | cons _ above =>
          cases cut
          exact ⟨above, n, line, below, rfl, by simpa [ofLines, here] using read, failed⟩

theorem failure_eq_none_iff :
    (ofLines known place ls).failure = none ↔
      ∀ above n line below, ls = above ++ (n, line) :: below →
        ¬∃ failure, Outcome.ofLine known (place.behind above) n line = .error failure := by
  constructor
  · rintro read above n line below rfl ⟨failure, failed⟩
    obtain ⟨outcome, same, -⟩ := exists_outcome read
    cases same.symm.trans failed
  · intro all
    rw [Option.eq_none_iff_forall_not_mem]
    intro failure failed
    obtain ⟨above, n, line, below, cut, -, stopped⟩ := failure_eq_some_iff.mp failed
    exact all above n line below cut ⟨failure, stopped⟩

end Trace

theorem Document.parse_eq_error_iff {text : String} {failure : ReadError} :
    parse text = .error failure ↔ (Trace.ofText text).failure = some failure := by
  simp only [parse]
  split <;> simp [*]

/-! ## Positions on the way -/

namespace Draft

/-- All positions that the elements of a draft carry or store are positions of the draft. -/
structure Closed (d : Draft) : Prop where
  entityIndex : ∀ (i : Nat) (e : Entity), d.entities[i]? = some e → e.index = i
  attributeIndex : ∀ (i : Nat) (a : Attribute), d.attributes[i]? = some a → a.index = i
  relationshipIndex : ∀ (i : Nat) (r : Relationship), d.relationships[i]? = some r → r.index = i
  listed : ∀ e ∈ d.entities, ∀ i ∈ e.attributeIds, i < d.attributes.length
  owners : ∀ a ∈ d.attributes, a.entity < d.entities.length
  references : ∀ a ∈ d.attributes, ∀ target, a.references = some target →
    target < d.entities.length
  ends : ∀ r ∈ d.relationships, r.source < d.entities.length ∧ r.target < d.entities.length
  rules : ∀ rule ∈ d.rules, rule.entity < d.entities.length ∧
    ∀ target count, rule.demand = .minCount target count → target < d.entities.length
  subtypes : ∀ rule ∈ d.subtypes, rule.subtype < d.entities.length ∧
    rule.base < d.entities.length ∧
    ∀ target count, rule.predicate = some (.related target count) → target < d.entities.length

theorem WellFormed.closed {d : Draft} (wellFormed : d.WellFormed) : d.Closed where
  entityIndex := wellFormed.placed.entityIndex
  attributeIndex := wellFormed.placed.attributeIndex
  relationshipIndex := wellFormed.apart.relationshipIndex
  listed := by
    intro e mem i listed
    rw [wellFormed.placed.listed e mem] at listed
    obtain ⟨a, aMem, rfl⟩ := List.mem_map.mp listed
    exact wellFormed.placed.attributeIndex.lt_length (List.mem_of_mem_filter aMem)
  owners := wellFormed.placed.ownerBound
  references := by
    intro a mem target references
    have bound := (wellFormed.told.reference a mem target references).1
    rwa [length_names] at bound
  ends := by
    intro r mem
    have ends := wellFormed.apart.ends r mem
    rwa [length_names] at ends
  rules := wellFormed.rules
  subtypes := wellFormed.subtypes

/-- The drafts that a document may go through: its declarations are entered, its facts attached,
attributes derived from them, and the rules and subtypes that were set aside are checked. -/
inductive Reached (doc : Document) : Draft → Prop where
  | start : Reached doc (empty doc.diagnostics)
  | declare {d e : Draft} {s : Declaration} (before : Reached doc d)
      (mem : s ∈ declarations doc.statements) (declared : d.declare s = .ok e) : Reached doc e
  | attach {d : Draft} {f : Fact} (before : Reached doc d) (mem : f ∈ facts doc.statements) :
      Reached doc (d.attach f)
  | derive {d e : Draft} {derived : List DerivedAttribute} (before : Reached doc d)
      (derives : d.derive = .ok (derived, e)) : Reached doc e
  | check {d e : Draft} {derived : List DerivedAttribute} {rule : PendingRule} {c : Constraint}
      (before : Reached doc d) (mem : rule ∈ d.rules)
      (checks : d.checkRule derived rule = .ok (c, e)) : Reached doc e
  | subtypes {d : Draft} (before : Reached doc d) : Reached doc d.checkSubtypes.2

section Reached

variable {doc : Document} {d e : Draft}

theorem Reached.wellFormed (reached : Reached doc d) : d.WellFormed := by
  induction reached with
  | start => exact wellFormed_empty _
  | declare _ _ declared ih => exact ih.declare declared
  | attach _ _ ih => exact ih.attach _
  | derive _ derives ih =>
    unfold Draft.derive at derives
    split at derives
    · contradiction
    · cases derives
      exact ⟨ih.placed, ih.apart, ih.told, ih.rules, ih.subtypes⟩
  | check _ mem checks ih =>
    have inRange := ih.rules _ mem
    exact (checkRule_spec ih inRange.1 inRange.2 checks).1.wellFormed
  | subtypes _ ih => exact (checkSubtypes_spec ih).1.wellFormed

/-- Whatever is looked up by a position on the way is there. -/
theorem Reached.closed (reached : Reached doc d) : d.Closed :=
  reached.wellFormed.closed

theorem Reached.foldlM_declare (reached : Reached doc d) {ss : List Declaration}
    (subset : ss ⊆ declarations doc.statements) (entered : ss.foldlM Draft.declare d = .ok e) :
    Reached doc e := by
  induction ss generalizing d with
  | nil =>
    cases entered
    exact reached
  | cons s ss ih =>
    obtain ⟨here, rest⟩ := List.cons_subset.mp subset
    rw [List.foldlM_cons] at entered
    obtain ⟨next, declared, later⟩ := of_bind_eq_ok entered
    exact ih (reached.declare here declared) rest later

theorem Reached.foldl_attach (reached : Reached doc d) {fs : List Fact}
    (subset : fs ⊆ facts doc.statements) : Reached doc (fs.foldl Draft.attach d) := by
  induction fs generalizing d with
  | nil => exact reached
  | cons f fs ih =>
    obtain ⟨here, rest⟩ := List.cons_subset.mp subset
    exact ih (reached.attach here) rest

theorem Reached.checkRules (reached : Reached doc d) {derived : List DerivedAttribute}
    {rules : List PendingRule} (subset : rules ⊆ d.rules) {constraints : List Constraint}
    (checks : d.checkRules derived rules = .ok (constraints, e)) : Reached doc e := by
  induction rules generalizing d constraints with
  | nil =>
    cases checks
    exact reached
  | cons rule rules ih =>
    obtain ⟨here, rest⟩ := List.cons_subset.mp subset
    rw [checkRules_cons] at checks
    obtain ⟨⟨c, next⟩, checked, checks⟩ := of_bind_eq_ok checks
    obtain ⟨⟨others, last⟩, later, checks⟩ := of_bind_eq_ok checks
    cases checks
    have inRange := reached.wellFormed.rules rule here
    have kept := (checkRule_spec reached.wellFormed inRange.1 inRange.2 checked).1.rules
    exact ih (reached.check here checked) (kept ▸ rest) later

/-- The draft of a document is reached. -/
theorem reached_of_ofDocument (drafted : ofDocument doc = .ok d) : Reached doc d := by
  obtain ⟨declared, entered, attached⟩ := of_bind_eq_ok drafted
  cases attached
  exact (Reached.start.foldlM_declare (List.Subset.refl _) entered).foldl_attach
    (List.Subset.refl _)

end Reached

end Draft

/-- The lists of a graph are those of the last draft that its document goes through. -/
theorem Graph.exists_reached {doc : Document} {g : Graph} (built : Graph.ofDocument doc = .ok g) :
    ∃ d, Draft.Reached doc d ∧ g.entities = d.entities ∧ g.attributes = d.attributes ∧
      g.relationships = d.relationships := by
  obtain ⟨d, e, constraints, drafted, acyclic, checks, rfl⟩ := Graph.ofDocument_eq_ok built
  have derives : d.derive = .ok (d.settled.derived, d.withShadowed) := by
    rw [Draft.derive, acyclic]
    rfl
  have settled := (Draft.reached_of_ofDocument drafted).derive derives
  exact ⟨_, (settled.checkRules (List.Subset.refl d.rules) checks).subtypes, rfl, rfl, rfl⟩

/-! ## Counts that are no numbers -/

/-- A text comes to a graph or a rejection, except for a count in digits that denotes no number.  It
stands in the first line that stops the reading, and a pattern meets it there. -/
theorem compile_eq_count_iff (text : String) (e : CountError) :
    compile text = .error (.count e) ↔
      ∃ above n line below, Line.ofText text = above ++ (n, line) :: below ∧
        line.Miscounts (Line.declaredNames (Line.ofText text)) above n e ∧
        ∀ front m other between, above = front ++ (m, other) :: between →
          ¬other.Stops (Line.declaredNames (Line.ofText text)) front m := by
  have compiles : compile text = .error (.count e) ↔ Document.parse text = .error (.count e) := by
    unfold compile
    cases read : Document.parse text with
    | error failure =>
      cases failure <;> simp [bind, Except.bind, Except.mapError, CompileFailure.ofReadError]
    | ok doc =>
      cases built : Graph.ofDocument doc <;> simp [built, bind, Except.bind, Except.mapError]
  rw [compiles, Document.parse_eq_error_iff, Trace.ofText, Line.scannedNames_eq,
    Trace.failure_eq_some_iff]
  simp only [Trace.failure_eq_none_iff, Line.ofLine_eq_error_iff, Line.ofLine_eq_count_iff]
  constructor
  · rintro ⟨above, n, line, below, cut, before, miscounts⟩
    exact ⟨above, n, line, below, cut, miscounts, before⟩
  · rintro ⟨above, n, line, below, cut, miscounts, before⟩
    exact ⟨above, n, line, below, cut, before, miscounts⟩

/-- A superscript two is a digit and no number. -/
theorem not_forall_graph_or_rejected :
    ¬∀ text, (∃ g, compile text = .ok g) ∨ ∃ r, compile text = .error (.rejected r) := by
  have fails : compile "**A**\n- A must have at least ² Bs.\n" = .error (.count (.notDecimal "²")) := by
    decide +kernel
  intro all
  rcases all "**A**\n- A must have at least ² Bs.\n" with ⟨g, compiles⟩ | ⟨r, rejected⟩
  · cases fails.symm.trans compiles
  · cases fails.symm.trans rejected

end FactModel
