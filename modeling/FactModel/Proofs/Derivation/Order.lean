import FactModel.Graph.Derivation
import FactModel.Proofs.Derivation.Cycles

/-!
# The order of settling

Relationships are settled in an order in which all that starts at a target is settled before
anything that leads to it.  The search for that order marks an entity as visited before it settles
what starts there, so that halfway through a visit the entities on the way are marked and not yet
settled.  They outrank whatever is still to be visited, which is why a rank tells the two apart.
-/

namespace FactModel.Derivation

/-- The relationships of a list that start at an entity. -/
def startingAt (l : List Relationship) (entity : Nat) : List Relationship :=
  l.filter (·.source == entity)

theorem startingAt_append (first second : List Relationship) (entity : Nat) :
    startingAt (first ++ second) entity = startingAt first entity ++ startingAt second entity :=
  List.filter_append ..

theorem startingAt_eq_nil {l : List Relationship} {entity : Nat}
    (elsewhere : ∀ r ∈ l, r.source ≠ entity) : startingAt l entity = [] := by
  rw [startingAt, List.filter_eq_nil_iff]
  intro r mem
  simpa using elsewhere r mem

/-- All that starts at the target of a listed relationship is settled before it. -/
def Ready (relationships : List Relationship) :
    (before : List Relationship) → List Relationship → Prop
  | _, [] => True
  | before, r :: rest =>
    startingAt before r.target = derivableFrom relationships r.target ∧
      Ready relationships (before ++ [r]) rest

theorem Ready.append {relationships before first second : List Relationship}
    (firstReady : Ready relationships before first)
    (secondReady : Ready relationships (before ++ first) second) :
    Ready relationships before (first ++ second) := by
  induction first generalizing before with
  | nil => simpa using secondReady
  | cons r rest ih =>
    refine ⟨firstReady.1, ih firstReady.2 ?_⟩
    rw [List.append_assoc]
    exact secondReady

/-- One order grows into another.  Of the entities visited before, just those relationships are
added that are given; of those visited since, all derivable ones. -/
structure Grown (relationships : List Relationship) (count : Nat)
    (given : Nat → List Relationship) (order order' : Order) (added : List Relationship) :
    Prop where
  settled : order'.settled = order.settled ++ added
  visited : ∀ v ∈ order.visited, v ∈ order'.visited
  known : ∀ v ∈ order.visited, startingAt added v = given v
  fresh : ∀ v ∈ order'.visited, v ∉ order.visited →
    v < count ∧ startingAt added v = derivableFrom relationships v
  sources : ∀ r ∈ added, r.source ∈ order'.visited
  ready : Ready relationships order.settled added

section Grown

variable {relationships : List Relationship} {count : Nat} {given given' : Nat → List Relationship}
  {order order' order'' : Order} {added added' : List Relationship}

theorem Grown.refl (order : Order) : Grown relationships count (fun _ => []) order order [] where
  settled := by simp
  visited := by simp
  known := by simp [startingAt]
  fresh := by
    intro v mem notMem
    contradiction
  sources := by simp
  ready := trivial

theorem Grown.congr (grown : Grown relationships count given order order' added)
    (same : ∀ v, given v = given' v) : Grown relationships count given' order order' added :=
  { grown with known := fun v mem => (grown.known v mem).trans (same v) }

theorem Grown.trans (first : Grown relationships count given order order' added)
    (second : Grown relationships count given' order' order'' added')
    (onlyKnown : ∀ v, v ∉ order.visited → given' v = []) :
    Grown relationships count (fun v => given v ++ given' v) order order'' (added ++ added') where
  settled := by rw [second.settled, first.settled, List.append_assoc]
  visited := fun v mem => second.visited v (first.visited v mem)
  known := by
    intro v mem
    rw [startingAt_append, first.known v mem, second.known v (first.visited v mem)]
  fresh := by
    intro v mem notMem
    rw [startingAt_append]
    by_cases already : v ∈ order'.visited
    · obtain ⟨bound, complete⟩ := first.fresh v already notMem
      refine ⟨bound, ?_⟩
      rw [complete, second.known v already, onlyKnown v notMem, List.append_nil]
    · obtain ⟨bound, complete⟩ := second.fresh v mem already
      refine ⟨bound, ?_⟩
      have none : startingAt added v = [] := startingAt_eq_nil fun r rMem same =>
        already (same ▸ first.sources r rMem)
      rw [none, List.nil_append, complete]
  sources := by
    intro r mem
    rcases List.mem_append.mp mem with old | new
    · exact second.visited _ (first.sources r old)
    · exact second.sources r new
  ready := first.ready.append (first.settled ▸ second.ready)

end Grown

/-- Whatever ranks below a bound and has been visited is settled, and nothing else is. -/
structure SettledBelow (relationships : List Relationship) (count : Nat) (rank : Nat → Nat)
    (bound : Nat) (order : Order) : Prop where
  inGraph : ∀ v ∈ order.visited, v < count
  sources : ∀ r ∈ order.settled, r.source ∈ order.visited
  done : ∀ v ∈ order.visited, rank v < bound →
    startingAt order.settled v = derivableFrom relationships v

theorem SettledBelow.grown {relationships : List Relationship} {count : Nat} {rank : Nat → Nat}
    {bound : Nat} {given : Nat → List Relationship} {order order' : Order}
    {added : List Relationship} (below : SettledBelow relationships count rank bound order)
    (grown : Grown relationships count given order order' added)
    (above : ∀ v, rank v < bound → given v = []) :
    SettledBelow relationships count rank bound order' where
  inGraph := by
    intro v mem
    by_cases already : v ∈ order.visited
    · exact below.inGraph v already
    · exact (grown.fresh v mem already).1
  sources := by
    intro r mem
    rw [grown.settled] at mem
    rcases List.mem_append.mp mem with old | new
    · exact grown.visited _ (below.sources r old)
    · exact grown.sources r new
  done := by
    intro v mem low
    rw [grown.settled, startingAt_append]
    by_cases already : v ∈ order.visited
    · rw [below.done v already low, grown.known v already, above v low, List.append_nil]
    · have none : startingAt order.settled v = [] := startingAt_eq_nil fun r rMem same =>
        already (same ▸ below.sources r rMem)
      rw [none, List.nil_append, (grown.fresh v mem already).2]

theorem SettledBelow.mono {relationships : List Relationship} {count : Nat} {rank : Nat → Nat}
    {low high : Nat} {order : Order} (below : SettledBelow relationships count rank high order)
    (le : low ≤ high) : SettledBelow relationships count rank low order :=
  { below with done := fun v mem less => below.done v mem (Nat.lt_of_lt_of_le less le) }

theorem mem_derivableFrom {relationships : List Relationship} {entity : Nat} {r : Relationship} :
    r ∈ derivableFrom relationships entity ↔
      r ∈ relationships ∧ r.derivable = true ∧ r.source = entity := by
  simp [derivableFrom]

/-- Once its target is settled a relationship may be settled itself. -/
theorem grown_settled {relationships : List Relationship} {count : Nat} {order : Order}
    {r : Relationship} (there : r.source ∈ order.visited)
    (done : startingAt order.settled r.target = derivableFrom relationships r.target) :
    Grown relationships count (fun v => if v = r.source then [r] else []) order
      { order with settled := order.settled ++ [r] } [r] where
  settled := rfl
  visited := fun _ mem => mem
  known := by
    intro v _
    by_cases same : v = r.source
    · subst same
      simp [startingAt]
    · simp [startingAt, same, Ne.symm same]
  fresh := by
    intro v mem notMem
    contradiction
  sources := by simpa using there
  ready := ⟨done, trivial⟩

section Visit

variable {relationships : List Relationship} {count : Nat} {rank : Nat → Nat}
  (ranked : ∀ v < count, rank v < count ∧
    ∀ r ∈ derivableFrom relationships v, r.target < count ∧ rank r.target < rank v)

include ranked

omit ranked in
/-- An entity that is visited is not done while its relationships are settled. -/
theorem SettledBelow.enter {order : Order} {entity : Nat} (inGraph : entity < count)
    (below : SettledBelow relationships count rank (rank entity + 1) order) :
    SettledBelow relationships count rank (rank entity)
      { order with visited := entity :: order.visited } where
  inGraph := by
    intro v mem
    rcases List.mem_cons.mp mem with rfl | old
    · exact inGraph
    · exact below.inGraph v old
  sources := fun r mem => List.mem_cons_of_mem _ (below.sources r mem)
  done := by
    intro v mem low
    rcases List.mem_cons.mp mem with rfl | old
    · exact absurd low (Nat.lt_irrefl _)
    · exact below.done v old (Nat.lt_succ_of_lt low)

omit ranked in
/-- Seen from outside, a visit settles all that starts at its entity. -/
theorem Grown.enter {order order' : Order} {entity : Nat} {added : List Relationship}
    (inGraph : entity < count) (unvisited : entity ∉ order.visited)
    (grown : Grown relationships count
      (fun v => if v = entity then derivableFrom relationships entity else [])
      { order with visited := entity :: order.visited } order' added) :
    Grown relationships count (fun _ => []) order order' added where
  settled := grown.settled
  visited := fun v mem => grown.visited v (List.mem_cons_of_mem _ mem)
  known := by
    intro v mem
    rw [grown.known v (List.mem_cons_of_mem _ mem)]
    refine if_neg ?_
    rintro rfl
    exact unvisited mem
  fresh := by
    intro v mem notMem
    by_cases same : v = entity
    · subst same
      exact ⟨inGraph, by rw [grown.known v (by simp), if_pos rfl]⟩
    · exact grown.fresh v mem (by simp [same, notMem])
  sources := grown.sources
  ready := grown.ready

/-- The relationships of an entity are settled one by one, when their targets can be visited. -/
theorem settling_grown {bound entity : Nat} (inGraph : entity < count) (room : rank entity ≤ bound)
    (visits : ∀ {order : Order} {target : Nat}, target < count → rank target < bound →
      SettledBelow relationships count rank (rank target + 1) order →
      target ∈ (Order.visit relationships bound order target).visited ∧
        ∃ added, Grown relationships count (fun _ => []) order
          (Order.visit relationships bound order target) added)
    {rest : List Relationship} (subset : ∀ r ∈ rest, r ∈ derivableFrom relationships entity)
    {start : Order} (there : entity ∈ start.visited)
    (below : SettledBelow relationships count rank (rank entity) start) :
    ∃ added, Grown relationships count (fun v => if v = entity then rest else []) start
      (rest.foldl (fun order r =>
        let order := Order.visit relationships bound order r.target
        { order with settled := order.settled ++ [r] }) start) added := by
  induction rest generalizing start with
  | nil => exact ⟨[], by simpa using Grown.refl start⟩
  | cons r rest restIh =>
    have mem := subset r (by simp)
    have starts : r.source = entity := (mem_derivableFrom.mp mem).2.2
    obtain ⟨targetIn, lower⟩ := (ranked entity inGraph).2 r mem
    obtain ⟨targetThere, targetAdded, targetGrown⟩ :=
      visits targetIn (by omega) (below.mono lower)
    have targetBelow := below.grown targetGrown (fun _ _ => rfl)
    have grown := targetGrown.trans
      (grown_settled (starts ▸ targetGrown.visited _ there)
        (targetBelow.done r.target targetThere lower))
      (by
        intro v notMem
        refine if_neg ?_
        rintro rfl
        exact notMem (starts ▸ there))
    obtain ⟨restAdded, restGrown⟩ := restIh
      (fun other otherMem => subset other (List.mem_cons_of_mem _ otherMem))
      (grown.visited _ there)
      (below.grown grown (by
        intro v low
        simp only [List.nil_append, starts]
        refine if_neg ?_
        rintro rfl
        exact Nat.lt_irrefl _ low))
    have all := grown.trans restGrown (by
      intro v notMem
      refine if_neg ?_
      rintro rfl
      exact notMem there)
    refine ⟨_, all.congr fun v => ?_⟩
    by_cases same : v = entity
    · simp [same, starts]
    · simp [same, starts]

/-- A visit settles what starts at its entity and at the entities that this leads to. -/
theorem visit_grown {bound : Nat} {order : Order} {entity : Nat} (inGraph : entity < count)
    (room : rank entity < bound)
    (below : SettledBelow relationships count rank (rank entity + 1) order) :
    entity ∈ (Order.visit relationships bound order entity).visited ∧
      ∃ added, Grown relationships count (fun _ => []) order
        (Order.visit relationships bound order entity) added := by
  induction bound generalizing order entity with
  | zero => omega
  | succ bound ih =>
    rw [Order.visit]
    split
    · next already => exact ⟨already, [], Grown.refl order⟩
    · next unvisited =>
      obtain ⟨added, grown⟩ := settling_grown ranked inGraph (Nat.le_of_lt_succ room) ih
        (fun _ mem => mem) List.mem_cons_self (below.enter inGraph)
      exact ⟨grown.visited _ List.mem_cons_self, added, grown.enter inGraph unvisited⟩

/-- Between two visits from outside all that has been visited is settled. -/
theorem visits_settled {entities : List Nat} (inGraph : ∀ v ∈ entities, v < count) {order : Order}
    (settled : ∀ bound, SettledBelow relationships count rank bound order)
    (ready : Ready relationships [] order.settled) :
    let order' := entities.foldl (Order.visit relationships count) order
    (∀ bound, SettledBelow relationships count rank bound order') ∧
      Ready relationships [] order'.settled ∧ (∀ v ∈ order.visited, v ∈ order'.visited) ∧
      ∀ v ∈ entities, v ∈ order'.visited := by
  induction entities generalizing order with
  | nil => exact ⟨settled, ready, fun _ mem => mem, by simp⟩
  | cons entity rest ih =>
    have entityIn := inGraph entity (by simp)
    obtain ⟨there, added, grown⟩ :=
      visit_grown ranked entityIn (ranked entity entityIn).1 (settled _)
    obtain ⟨settled', ready', kept, visited⟩ :=
      ih (fun v mem => inGraph v (List.mem_cons_of_mem _ mem))
        (fun bound => (settled bound).grown grown fun _ _ => rfl)
        (by
          rw [grown.settled]
          exact ready.append grown.ready)
    refine ⟨settled', ready', fun v mem => kept v (grown.visited v mem), fun v mem => ?_⟩
    rcases List.mem_cons.mp mem with rfl | later
    · exact kept v there
    · exact visited v later

end Visit

/-- A list holds, for each entity, its derivable relationships as they were listed, and each of
them after all that start at its target. -/
structure Settles (count : Nat) (relationships l : List Relationship) : Prop where
  complete : ∀ v < count, startingAt l v = derivableFrom relationships v
  inGraph : ∀ r ∈ l, r.source < count
  ready : Ready relationships [] l

theorem Settles.mem_iff {count : Nat} {relationships l : List Relationship}
    (settles : Settles count relationships l)
    (bounded : ∀ r ∈ relationships, r.source < count) (r : Relationship) :
    r ∈ l ↔ r ∈ relationships ∧ r.derivable = true := by
  have same (inGraph : r.source < count) : r ∈ l ↔ r ∈ relationships ∧ r.derivable = true := by
    have mem : r ∈ derivableFrom relationships r.source ↔
        r ∈ relationships ∧ r.derivable = true ∧ r.source = r.source := mem_derivableFrom
    rw [← settles.complete r.source inGraph] at mem
    simpa [startingAt] using mem
  constructor
  · intro mem
    exact (same (settles.inGraph r mem)).mp mem
  · intro mem
    exact (same (bounded r mem.1)).mpr mem

/-- Where a relationship is ready and the order complete, nothing more starts at its target. -/
theorem Ready.pairwise {relationships before rest : List Relationship}
    (ready : Ready relationships before rest)
    (complete : ∀ r ∈ rest,
      startingAt (before ++ rest) r.target = derivableFrom relationships r.target) :
    rest.Pairwise (fun r later => r.target ≠ later.source) ∧ ∀ r ∈ rest, r.target ≠ r.source := by
  induction rest generalizing before with
  | nil => simp
  | cons r rest ih =>
    have none : startingAt (r :: rest) r.target = [] := by
      have all := complete r (by simp)
      rw [startingAt_append, ready.1] at all
      exact List.append_right_eq_self.mp all
    have elsewhere (later : Relationship) (mem : later ∈ r :: rest) : r.target ≠ later.source := by
      have differs : later.source ≠ r.target := by
        simpa using List.filter_eq_nil_iff.mp none later mem
      exact differs.symm
    obtain ⟨pairwise, irreflexive⟩ := ih ready.2 (by
      intro other mem
      rw [List.append_assoc]
      exact complete other (List.mem_cons_of_mem _ mem))
    refine ⟨List.pairwise_cons.mpr ⟨fun later mem => elsewhere later (by simp [mem]), pairwise⟩, ?_⟩
    intro other mem
    rcases List.mem_cons.mp mem with rfl | later
    · exact elsewhere other (by simp)
    · exact irreflexive other later

/-- Without a cycle, entities can be ranked so that each outranks the targets of what it has. -/
theorem exists_rank {count : Nat} {relationships : List Relationship}
    (bounded : ∀ r ∈ relationships, r.source < count ∧ r.target < count)
    (acyclic : cycle? count relationships = none) :
    ∃ rank : Nat → Nat, ∀ v < count, rank v < count ∧
      ∀ r ∈ derivableFrom relationships v, r.target < count ∧ rank r.target < rank v := by
  have targetsBounded (v : Nat) (_ : v < count) :
      ∀ child ∈ (derivableFrom relationships v).map (·.target), child < count := by
    intro child mem
    obtain ⟨r, rMem, rfl⟩ := List.mem_map.mp mem
    exact (bounded r (mem_derivableFrom.mp rMem).1).2
  obtain ⟨rank, ranked⟩ := Cycle.exists_rank_of_first?_eq_none targetsBounded acyclic
  refine ⟨rank, fun v inGraph => ⟨(ranked v inGraph).1, fun r mem => ?_⟩⟩
  have targetMem := List.mem_map_of_mem (f := (·.target)) mem
  exact ⟨targetsBounded v inGraph _ targetMem, (ranked v inGraph).2 _ targetMem⟩

/-- Without a cycle, every derivable relationship is settled after those of its target. -/
theorem settles_settleOrder {count : Nat} {relationships : List Relationship}
    (bounded : ∀ r ∈ relationships, r.source < count ∧ r.target < count)
    (acyclic : cycle? count relationships = none) :
    Settles count relationships (settleOrder count relationships) := by
  obtain ⟨rank, ranks⟩ := exists_rank bounded acyclic
  have start (bound : Nat) :
      SettledBelow relationships count rank bound { visited := [], settled := [] } :=
    { inGraph := by simp, sources := by simp, done := by simp }
  have allIn : ∀ v ∈ List.range count, v < count := by simp
  obtain ⟨settled, ready, -, visited⟩ := visits_settled ranks allIn start trivial
  exact
    { complete := fun v inGraph =>
        (settled (rank v + 1)).done v (visited v (List.mem_range.mpr inGraph)) (Nat.lt_succ_self _)
      inGraph := fun r mem => (settled 0).inGraph _ ((settled 0).sources r mem)
      ready }

end FactModel.Derivation
