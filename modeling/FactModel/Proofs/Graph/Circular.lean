import FactModel.Proofs.Derivation.Cycles
import FactModel.Proofs.Derivation.Recursion
import FactModel.Proofs.Graph.Compiling

/-!
# Entities that have each other in a circle

The relationships across which attributes are taken over are searched for a cycle before anything is
taken over.  The search is exact, so that a text is rejected for a cycle just when there is one, the
rejection names one, and what comes after it may follow the relationships without a bound.
-/

namespace FactModel

namespace Derivation

/-- Whether attributes of the second entity are taken over by the first one. -/
def LeadsTo (relationships : List Relationship) (v w : Nat) : Prop :=
  ∃ r ∈ relationships, r.derivable = true ∧ r.source = v ∧ r.target = w

/-- Whether an entity takes over attributes from itself in the end. -/
def Circular (relationships : List Relationship) : Prop :=
  ∃ v, Relation.TransGen (LeadsTo relationships) v v

theorem mem_targets_iff {relationships : List Relationship} {v w : Nat} :
    w ∈ (derivableFrom relationships v).map (·.target) ↔ LeadsTo relationships v w := by
  simp only [List.mem_map, mem_derivableFrom, LeadsTo, and_assoc]

theorem closed_of_cycle? {count : Nat} {relationships : List Relationship} {cycle : List Nat}
    (found : cycle? count relationships = some cycle) :
    Cycle.Closed (LeadsTo relationships) cycle := by
  simpa only [mem_targets_iff] using Cycle.closed_of_first? found

section Bounded

variable {count : Nat} {relationships : List Relationship}
  (bounded : ∀ r ∈ relationships, r.source < count ∧ r.target < count)

include bounded

theorem cycle?_eq_none_iff : cycle? count relationships = none ↔ ¬Circular relationships := by
  have inside : ∀ v, ∀ w ∈ (derivableFrom relationships v).map (·.target),
      v < count ∧ w < count := by
    intro v w isNext
    obtain ⟨r, mem, -, rfl, rfl⟩ := mem_targets_iff.mp isNext
    exact bounded r mem
  have decides := Cycle.first?_eq_none_iff inside
  simp only [mem_targets_iff] at decides
  exact decides

/-- Without a circle every visit comes to an end, and to what it comes to with a bound. -/
theorem exists_visits_of_not_circular (free : ¬Circular relationships) (order : Order)
    {entity : Nat} (inGraph : entity < count) : ∃ result, Visits relationships order entity result ∧
      result.settled = (Order.visit relationships count order entity).settled ∧
      ∀ v, v ∈ result.visited ↔ v ∈ (Order.visit relationships count order entity).visited := by
  obtain ⟨rank, ranked⟩ := exists_rank bounded ((cycle?_eq_none_iff bounded).mpr free)
  have start : Ahead [] order order := ⟨rfl, by simp⟩
  obtain ⟨result, visits, alike⟩ :=
    exists_visits ranked inGraph (ranked entity inGraph).1 (by simp) start
  exact ⟨result, visits, alike.settled.symm, fun v => by simp [alike.visited]⟩

end Bounded

end Derivation

namespace Draft

theorem derive_eq_error_iff {d : Draft} {rejection : Rejection} : d.derive = .error rejection ↔
    ∃ cycle, Derivation.cycle? d.entities.length d.relationships = some cycle ∧
      rejection =
        { error := .circular (cycle.map d.entityName), diagnostics := d.diagnostics } := by
  unfold derive
  cases Derivation.cycle? d.entities.length d.relationships with
  | none => simp
  | some cycle => simp [eq_comm]

/-- Deriving fails just when entities have each other in a circle, and names such a circle. -/
structure DerivesUnlessCircular (d : Draft) : Prop where
  fails_iff : (∃ rejection, d.derive = .error rejection) ↔ Derivation.Circular d.relationships
  names : ∀ rejection, d.derive = .error rejection →
    ∃ cycle, Cycle.Closed (Derivation.LeadsTo d.relationships) cycle ∧
      rejection = { error := .circular (cycle.map d.entityName), diagnostics := d.diagnostics }

theorem derivesUnlessCircular {d : Draft}
    (bounded : ∀ r ∈ d.relationships, r.source < d.entities.length ∧ r.target < d.entities.length) :
    d.DerivesUnlessCircular where
  fails_iff := by
    rw [← not_iff_not, ← Derivation.cycle?_eq_none_iff bounded]
    simp [derive_eq_error_iff, Option.eq_none_iff_forall_ne_some]
  names := by
    intro rejection failed
    obtain ⟨cycle, found, rfl⟩ := derive_eq_error_iff.mp failed
    exact ⟨cycle, Derivation.closed_of_cycle? found, rfl⟩

/-- A rule that fails is rejected for the line on which it stands. -/
theorem line?_of_checkRule {derived : List DerivedAttribute} {d : Draft} {rule : PendingRule}
    {rejection : Rejection} (failed : d.checkRule derived rule = .error rejection) :
    rejection.error.line? = some rule.line := by
  unfold checkRule at failed
  split at failed
  · unfold checkAttributeRule at failed
    extract_lets explicit? derived? found? at failed
    cases isFound : found? with
    | none =>
      simp only [isFound, Except.error.injEq] at failed
      exact failed ▸ rfl
    | some found => simp [isFound] at failed
  · unfold checkCountRule at failed
    split at failed
    · exact Except.error.inj failed ▸ rfl
    · cases failed

theorem line?_of_checkRules {derived : List DerivedAttribute} {d : Draft} {rules : List PendingRule}
    {rejection : Rejection} (failed : d.checkRules derived rules = .error rejection) :
    ∃ rule ∈ rules, rejection.error.line? = some rule.line := by
  induction rules generalizing d with
  | nil => cases failed
  | cons rule rules ih =>
    rw [checkRules_cons] at failed
    rcases of_bind_eq_error failed with first | ⟨⟨c, e⟩, -, failed⟩
    · exact ⟨rule, List.mem_cons_self, line?_of_checkRule first⟩
    · rcases of_bind_eq_error failed with later | ⟨⟨cs, e⟩, -, failed⟩
      · obtain ⟨other, mem, same⟩ := ih later
        exact ⟨other, List.mem_cons_of_mem _ mem, same⟩
      · cases failed

end Draft

/-- Of the steps by which a document becomes a graph, deriving alone fails for a circle. -/
theorem Graph.ofDocument_eq_circular_iff {doc : Document} {d : Draft}
    (drafted : Draft.ofDocument doc = .ok d) {names : List String} {diagnostics : List Diagnostic} :
    Graph.ofDocument doc = .error ⟨.circular names, diagnostics⟩ ↔
      d.derive = .error ⟨.circular names, diagnostics⟩ := by
  constructor
  · intro failed
    rcases of_bind_eq_error failed with undrafted | ⟨d', drafted', failed⟩
    · cases drafted.symm.trans undrafted
    · obtain rfl := Except.ok.inj (drafted.symm.trans drafted')
      rcases of_bind_eq_error failed with failed | ⟨⟨derived, e⟩, -, failed⟩
      · exact failed
      · rcases of_bind_eq_error failed with failed | ⟨_, -, failed⟩
        · obtain ⟨rule, -, line⟩ := Draft.line?_of_checkRules failed
          cases line
        · cases failed
  · intro failed
    show (Draft.ofDocument doc).bind _ = _
    rw [drafted]
    show d.derive.bind _ = _
    rw [failed]
    rfl

theorem compile_eq_rejected_iff {text : String} {doc : Document}
    (read : Document.parse text = .ok doc) {rejection : Rejection} :
    compile text = .error (.rejected rejection) ↔ Graph.ofDocument doc = .error rejection := by
  unfold compile
  rw [read]
  cases built : Graph.ofDocument doc <;> simp [built, bind, Except.bind, Except.mapError]

/-- The search for a cycle is exact: it finds one just when relationships lead from an entity back
to it, and what it finds is one.  Hence deriving fails just then, for the cycle it names, and so
does compiling where it comes to that.  Otherwise what visits entities along relationships comes to
an end without a bound. -/
theorem cycle_search_exact {count : Nat} {relationships : List Relationship}
    (bounded : ∀ r ∈ relationships, r.source < count ∧ r.target < count) :
    (Derivation.cycle? count relationships = none ↔ ¬Derivation.Circular relationships) ∧
      (∀ cycle, Derivation.cycle? count relationships = some cycle →
        Cycle.Closed (Derivation.LeadsTo relationships) cycle) ∧
      (¬Derivation.Circular relationships → ∀ order, ∀ entity < count, ∃ result,
        Derivation.Visits relationships order entity result ∧
          result.settled = (Derivation.Order.visit relationships count order entity).settled ∧
          ∀ v, v ∈ result.visited ↔
            v ∈ (Derivation.Order.visit relationships count order entity).visited) ∧
      (∀ d : Draft, d.entities.length = count → d.relationships = relationships →
        d.DerivesUnlessCircular) ∧
      ∀ text doc d, Document.parse text = .ok doc → Draft.ofDocument doc = .ok d →
        d.DerivesUnlessCircular ∧ ∀ names diagnostics,
          compile text = .error (.rejected ⟨.circular names, diagnostics⟩) ↔
            d.derive = .error ⟨.circular names, diagnostics⟩ := by
  refine ⟨Derivation.cycle?_eq_none_iff bounded, fun _ => Derivation.closed_of_cycle?,
    fun free order _ => Derivation.exists_visits_of_not_circular bounded free order, ?_, ?_⟩
  · rintro d rfl rfl
    exact Draft.derivesUnlessCircular bounded
  · intro text doc d read drafted
    have ends := (Draft.ofDocument_spec read drafted).1.apart.ends
    refine ⟨Draft.derivesUnlessCircular (by simpa using ends), fun names diagnostics => ?_⟩
    rw [compile_eq_rejected_iff read, Graph.ofDocument_eq_circular_iff drafted]

/-- Relationships to one between the given entities. -/
def Relationship.between (ends : List (Nat × Nat)) : List Relationship :=
  ends.mapIdx fun i (source, target) =>
    { index := i, source, target, cardinality := .manyToOne, line := i }

/-- Neither parallel relationships nor two ways to the same entity are a circle.  Two entities that
have each other are one, though no other entity leads to them. -/
theorem cycle_search_beside_diamond :
    (∀ r ∈ Relationship.between [(0, 1), (0, 1), (1, 2), (0, 2), (3, 4), (4, 3)],
      r.source < 5 ∧ r.target < 5) ∧
    ¬Derivation.Circular (Relationship.between [(0, 1), (0, 1), (1, 2), (0, 2)]) ∧
    Derivation.Circular (Relationship.between [(0, 1), (0, 1), (1, 2), (0, 2), (3, 4), (4, 3)]) ∧
    Cycle.Closed (Derivation.LeadsTo
      (Relationship.between [(0, 1), (0, 1), (1, 2), (0, 2), (3, 4), (4, 3)])) [3, 4, 3] := by
  have diamond : ∀ r ∈ Relationship.between [(0, 1), (0, 1), (1, 2), (0, 2)],
      r.source < 5 ∧ r.target < 5 := by decide
  have circle : ∀ r ∈ Relationship.between [(0, 1), (0, 1), (1, 2), (0, 2), (3, 4), (4, 3)],
      r.source < 5 ∧ r.target < 5 := by decide
  have found : Derivation.cycle? 5
      (Relationship.between [(0, 1), (0, 1), (1, 2), (0, 2), (3, 4), (4, 3)]) = some [3, 4, 3] := by
    decide +kernel
  obtain ⟨none, closed, -⟩ := cycle_search_exact circle
  refine ⟨circle, (cycle_search_exact diamond).1.mp (by decide +kernel), ?_, closed _ found⟩
  by_contra free
  cases (none.mpr free).symm.trans found

end FactModel
