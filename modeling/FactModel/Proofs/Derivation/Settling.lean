import FactModel.Proofs.Derivation.Order
import Mathlib.Data.List.Perm.Basic

/-!
# What settling comes to

Relationships are settled one after the other, and what is taken over across one of them depends on
what was taken over before.  When all are settled this no longer shows: each entity has just those
attributes that it would select if all its relationships offered what their targets have in the
end, and just those offers that it did not select are reported.
-/

namespace FactModel.Derivation

/-! ## Selecting -/

/-- Of the taken keys it only matters which they are. -/
theorem selectFree_congr {taken taken' : List String} (same : ∀ key, key ∈ taken ↔ key ∈ taken')
    (ds : List DerivedAttribute) : selectFree taken ds = selectFree taken' ds := by
  induction ds generalizing taken taken' with
  | nil => rfl
  | cons d rest ih =>
    have sameTest : taken.contains (Name.key d.name) = taken'.contains (Name.key d.name) := by
      rw [Bool.eq_iff_iff, List.contains_iff_mem, List.contains_iff_mem]
      exact same _
    have sameNext (key : String) :
        key ∈ Name.key d.name :: taken ↔ key ∈ Name.key d.name :: taken' := by
      rw [List.mem_cons, List.mem_cons, same]
    simp only [selectFree, sameTest, ih same, ih sameNext]

/-- Selecting from a list in two goes. -/
theorem selectFree_append (taken : List String) (first second : List DerivedAttribute) :
    selectFree taken (first ++ second) =
      let early := selectFree taken first
      let late := selectFree (early.1.map (Name.key ·.name) ++ taken) second
      (early.1 ++ late.1, early.2 ++ late.2) := by
  induction first generalizing taken with
  | nil => rfl
  | cons d rest ih =>
    rw [List.cons_append]
    by_cases clash : taken.contains (Name.key d.name) = true
    · simp only [selectFree, clash, if_true, ih, List.cons_append]
    · have moved (admitted : List String) :
          selectFree (admitted ++ Name.key d.name :: taken) second =
            selectFree (Name.key d.name :: (admitted ++ taken)) second := by
        refine selectFree_congr (fun key => ?_) second
        simp only [List.mem_append, List.mem_cons]
        tauto
      simp only [selectFree, clash, if_false, Bool.false_eq_true, ih, List.cons_append,
        List.map_cons, moved]

theorem selectFree_sublist (taken : List String) (ds : List DerivedAttribute) :
    (selectFree taken ds).1.Sublist ds ∧ (selectFree taken ds).2.Sublist ds := by
  induction ds generalizing taken with
  | nil => simp [selectFree]
  | cons d rest ih =>
    by_cases clash : taken.contains (Name.key d.name) = true
    · simp only [selectFree, clash, if_true]
      exact ⟨(ih taken).1.cons d, (ih taken).2.cons_cons d⟩
    · simp only [selectFree, clash, if_false, Bool.false_eq_true]
      exact ⟨(ih _).1.cons_cons d, (ih _).2.cons d⟩

/-- The names of what is selected are different, and none of them was taken. -/
theorem selectFree_keys (taken : List String) (ds : List DerivedAttribute) :
    ((selectFree taken ds).1.map (Name.key ·.name)).Nodup ∧
      ∀ d ∈ (selectFree taken ds).1, Name.key d.name ∉ taken := by
  induction ds generalizing taken with
  | nil => simp [selectFree]
  | cons d rest ih =>
    by_cases clash : taken.contains (Name.key d.name) = true
    · simp only [selectFree, clash, if_true]
      exact ih taken
    · obtain ⟨nodup, free⟩ := ih (Name.key d.name :: taken)
      simp only [selectFree, clash, if_false, Bool.false_eq_true]
      refine ⟨?_, fun e mem => ?_⟩
      · rw [List.map_cons, List.nodup_cons]
        refine ⟨fun there => ?_, nodup⟩
        obtain ⟨e, eMem, same⟩ := List.mem_map.mp there
        exact free e eMem (by simp [same])
      · rcases List.mem_cons.mp mem with rfl | later
        · simpa using clash
        · exact fun inUse => free e later (List.mem_cons_of_mem _ inUse)

/-- What is offered is selected or not. -/
theorem selectFree_perm (taken : List String) (ds : List DerivedAttribute) :
    ((selectFree taken ds).1 ++ (selectFree taken ds).2).Perm ds := by
  induction ds generalizing taken with
  | nil => simp [selectFree]
  | cons d rest ih =>
    by_cases clash : taken.contains (Name.key d.name) = true
    · simp only [selectFree, clash, if_true]
      exact List.perm_middle.trans ((ih taken).cons d)
    · simp only [selectFree, clash, if_false, Bool.false_eq_true, List.cons_append]
      exact (ih _).cons d

/-! ## Offers -/

/-- The derived attributes of an entity, among those of a list. -/
def ofEntity (derived : List DerivedAttribute) (entity : Nat) : List DerivedAttribute :=
  derived.filter (·.entity == entity)

/-- The line on which the first relationship of a path is stated. -/
def lineOf (relationships : List Relationship) (path : List Nat) : Nat :=
  ((path.head?.bind (relationships[·]?)).map (·.line)).getD 0

/-- The report on an offer that is not selected. -/
def report (names : Nat → String) (relationships : List Relationship) (d : DerivedAttribute) :
    Diagnostic :=
  { finding := .shadowed (names d.entity) d.name, line := lineOf relationships d.path }

section Offers

variable (names : Nat → String) (explicit : Nat → List Attribute)

/-- What is offered across relationships when the given attributes are derived. -/
def offers (derived : List DerivedAttribute) (rs : List Relationship) : List DerivedAttribute :=
  rs.flatMap (candidates names explicit { derived, shadowed := [] })

/-- What an entity selects, and what it does not, of the offers across relationships. -/
def share (derived : List DerivedAttribute) (rs : List Relationship) (entity : Nat) :
    List DerivedAttribute × List DerivedAttribute :=
  selectFree ((explicit entity).map (Name.key ·.name)) (offers names explicit derived rs)

variable {names explicit}

theorem candidates_congr {state state' : State} {r : Relationship}
    (same : ofEntity state.derived r.target = ofEntity state'.derived r.target) :
    candidates names explicit state r = candidates names explicit state' r := by
  rw [ofEntity, ofEntity] at same
  rw [candidates, candidates, same]

theorem offers_congr {derived derived' : List DerivedAttribute} {rs : List Relationship}
    (same : ∀ r ∈ rs, ofEntity derived r.target = ofEntity derived' r.target) :
    offers names explicit derived rs = offers names explicit derived' rs := by
  rw [offers, offers]
  exact List.flatMap_congr fun r mem => candidates_congr (same r mem)

/-- What is offered across a relationship goes to its source along a path that it begins. -/
theorem of_mem_candidates {state : State} {r : Relationship} {d : DerivedAttribute}
    (mem : d ∈ candidates names explicit state r) :
    d.entity = r.source ∧ d.path.head? = some r.index := by
  rw [candidates, List.mem_append, List.mem_map, List.mem_map] at mem
  rcases mem with ⟨a, -, rfl⟩ | ⟨e, -, rfl⟩ <;> exact ⟨rfl, rfl⟩

/-! ## Settling -/

/-- Halfway through, each entity has selected of what it is offered across the relationships
settled so far, and the rest is reported. -/
structure Halfway (names : Nat → String) (explicit : Nat → List Attribute) (count : Nat)
    (relationships before : List Relationship) (state : State) : Prop where
  selected : ∀ v, ofEntity state.derived v =
    (share names explicit state.derived (startingAt before v) v).1
  reported : state.shadowed.Perm ((List.range count).flatMap fun v =>
    (share names explicit state.derived (startingAt before v) v).2.map (report names relationships))

theorem share_append {derived : List DerivedAttribute} {before : List Relationship}
    {r : Relationship} :
    share names explicit derived (startingAt (before ++ [r]) r.source) r.source =
      let early := share names explicit derived (startingAt before r.source) r.source
      let late := selectFree (early.1.map (Name.key ·.name) ++
        (explicit r.source).map (Name.key ·.name))
        (candidates names explicit { derived, shadowed := [] } r)
      (early.1 ++ late.1, early.2 ++ late.2) := by
  have ends : startingAt (before ++ [r]) r.source = startingAt before r.source ++ [r] := by
    simp [startingAt]
  rw [share, ends, offers, List.flatMap_append, List.flatMap_singleton, selectFree_append]
  rfl

/-- What the source of a relationship selects when the relationship is settled. -/
def taking (names : Nat → String) (explicit : Nat → List Attribute) (state : State)
    (r : Relationship) : List DerivedAttribute × List DerivedAttribute :=
  selectFree ((ofEntity state.derived r.source).map (Name.key ·.name) ++
    (explicit r.source).map (Name.key ·.name)) (candidates names explicit state r)

theorem settle_eq (state : State) (r : Relationship) :
    settle names explicit state r =
      { derived := state.derived ++ (taking names explicit state r).1
        shadowed := state.shadowed ++ (taking names explicit state r).2.map fun d =>
          { finding := .shadowed (names r.source) d.name, line := r.line } } := by
  have same : taking names explicit state r = selectFree ((explicit r.source).map
      (Name.key ·.name) ++ (ofEntity state.derived r.source).map (Name.key ·.name))
      (candidates names explicit state r) :=
    selectFree_congr (fun key => by rw [List.mem_append, List.mem_append, or_comm]) _
  rw [same]
  rfl

theorem of_mem_taking {state : State} {r : Relationship} {d : DerivedAttribute}
    (mem : d ∈ (taking names explicit state r).1 ∨ d ∈ (taking names explicit state r).2) :
    d.entity = r.source ∧ d.path.head? = some r.index := by
  have sublists := selectFree_sublist ((ofEntity state.derived r.source).map (Name.key ·.name) ++
    (explicit r.source).map (Name.key ·.name)) (candidates names explicit state r)
  exact of_mem_candidates (mem.elim (fun m => sublists.1.subset m) fun m => sublists.2.subset m)

/-- What a relationship adds goes to its source. -/
theorem ofEntity_settle (state : State) (r : Relationship) (v : Nat) :
    ofEntity (settle names explicit state r).derived v = ofEntity state.derived v ++
      if v = r.source then (taking names explicit state r).1 else [] := by
  rw [settle_eq, ofEntity, List.filter_append]
  congr 1
  split
  · next same =>
    rw [List.filter_eq_self]
    intro d mem
    simp [(of_mem_taking (.inl mem)).1, same]
  · next differs =>
    rw [List.filter_eq_nil_iff]
    intro d mem
    simp [(of_mem_taking (.inl mem)).1, Ne.symm differs]

/-- Settling a relationship changes what its source selects and nothing else, provided that nothing
settled before leads to the source. -/
theorem share_settle {state : State} {before : List Relationship} {r : Relationship}
    (selected : ofEntity state.derived r.source =
      (share names explicit state.derived (startingAt before r.source) r.source).1)
    (apart : ∀ earlier ∈ before, earlier.target ≠ r.source) (irreflexive : r.target ≠ r.source)
    (v : Nat) :
    share names explicit (settle names explicit state r).derived
        (startingAt (before ++ [r]) v) v =
      let early := share names explicit state.derived (startingAt before v) v
      if v = r.source then
        (early.1 ++ (taking names explicit state r).1, early.2 ++ (taking names explicit state r).2)
      else early := by
  have kept (target : Nat) (other : target ≠ r.source) :
      ofEntity (settle names explicit state r).derived target = ofEntity state.derived target := by
    rw [ofEntity_settle, if_neg other, List.append_nil]
  have sameOffers : offers names explicit (settle names explicit state r).derived
      (startingAt before v) = offers names explicit state.derived (startingAt before v) :=
    offers_congr fun earlier mem =>
      kept earlier.target (apart earlier (List.mem_of_mem_filter mem))
  have sameShare :
      share names explicit (settle names explicit state r).derived (startingAt before v) v =
        share names explicit state.derived (startingAt before v) v := by
    rw [share, sameOffers, share]
  split
  · next same =>
    subst same
    have sameCandidates : candidates names explicit
        { derived := (settle names explicit state r).derived, shadowed := [] } r =
          candidates names explicit state r := candidates_congr (kept r.target irreflexive)
    rw [share_append, sameShare, sameCandidates, taking, selected]
  · next differs =>
    have none : startingAt [r] v = [] := startingAt_eq_nil fun s mem => by
      rw [List.mem_singleton.mp mem]
      exact Ne.symm differs
    rw [← sameShare, share, startingAt_append, none, List.append_nil, share]

/-- An addition at one place of a list is an addition to the whole. -/
theorem perm_flatMap_of_eq_append {α β : Type} [DecidableEq α] {l : List α} (nodup : l.Nodup)
    {a : α} (mem : a ∈ l) {f g : α → List β} {added : List β}
    (here : g a = f a ++ added) (elsewhere : ∀ b ∈ l, b ≠ a → g b = f b) :
    (l.flatMap g).Perm (l.flatMap f ++ added) := by
  induction l with
  | nil => contradiction
  | cons b rest ih =>
    obtain ⟨notThere, restNodup⟩ := List.nodup_cons.mp nodup
    rw [List.flatMap_cons, List.flatMap_cons]
    by_cases same : b = a
    · subst same
      have rest_eq : rest.flatMap g = rest.flatMap f := List.flatMap_congr fun c cMem =>
        elsewhere c (List.mem_cons_of_mem _ cMem) fun eq => notThere (eq ▸ cMem)
      rw [here, rest_eq, List.append_assoc, List.append_assoc]
      exact List.Perm.append_left _ List.perm_append_comm
    · rw [elsewhere b (by simp) same, List.append_assoc]
      exact (ih restNodup ((List.mem_cons.mp mem).resolve_left (Ne.symm same))
        fun c cMem => elsewhere c (List.mem_cons_of_mem _ cMem)).append_left _

theorem Halfway.step {count : Nat} {relationships before : List Relationship} {state : State}
    (halfway : Halfway names explicit count relationships before state) {r : Relationship}
    (inGraph : r.source < count) (atPlace : relationships[r.index]? = some r)
    (apart : ∀ earlier ∈ before, earlier.target ≠ r.source) (irreflexive : r.target ≠ r.source) :
    Halfway names explicit count relationships (before ++ [r]) (settle names explicit state r) where
  selected := by
    intro v
    rw [ofEntity_settle, share_settle (halfway.selected r.source) apart irreflexive,
      halfway.selected v]
    split
    · rfl
    · exact List.append_nil _
  reported := by
    have reports : (taking names explicit state r).2.map (report names relationships) =
        (taking names explicit state r).2.map fun d =>
          { finding := .shadowed (names r.source) d.name, line := r.line } := by
      apply List.map_congr_left
      intro d mem
      obtain ⟨source, head⟩ := of_mem_taking (.inr mem)
      simp [report, lineOf, source, head, atPlace]
    have shares := share_settle (halfway.selected r.source) apart irreflexive
    have whole := perm_flatMap_of_eq_append List.nodup_range (List.mem_range.mpr inGraph)
      (f := fun v => (share names explicit state.derived (startingAt before v) v).2.map
        (report names relationships))
      (g := fun v => (share names explicit (settle names explicit state r).derived
        (startingAt (before ++ [r]) v) v).2.map (report names relationships))
      (by rw [shares, if_pos rfl, List.map_append])
      (fun v _ differs => by rw [shares, if_neg differs])
    refine List.Perm.trans ?_ whole.symm
    rw [settle_eq, reports]
    exact halfway.reported.append_right _

/-- Settling relationships of which none leads to the source of a later one. -/
theorem Halfway.run {count : Nat} {relationships before : List Relationship} {state : State}
    (halfway : Halfway names explicit count relationships before state) {rest : List Relationship}
    (inGraph : ∀ r ∈ rest, r.source < count)
    (atPlace : ∀ r ∈ rest, relationships[r.index]? = some r)
    (pairwise : (before ++ rest).Pairwise fun r later => r.target ≠ later.source)
    (irreflexive : ∀ r ∈ rest, r.target ≠ r.source) :
    Halfway names explicit count relationships (before ++ rest)
      (rest.foldl (settle names explicit) state) := by
  induction rest generalizing before state with
  | nil => simpa using halfway
  | cons r rest ih =>
    have apart (earlier : Relationship) (mem : earlier ∈ before) : earlier.target ≠ r.source :=
      (List.pairwise_append.mp pairwise).2.2 earlier mem r (by simp)
    have next := halfway.step (inGraph r (by simp)) (atPlace r (by simp)) apart
      (irreflexive r (by simp))
    have all := ih next (fun s mem => inGraph s (List.mem_cons_of_mem _ mem))
      (fun s mem => atPlace s (List.mem_cons_of_mem _ mem))
      (by simpa using pairwise) (fun s mem => irreflexive s (List.mem_cons_of_mem _ mem))
    simpa using all

/-! ## Deriving -/

/-- Each entity has what it selects of the offers across its derivable relationships, and what it
does not select is reported, each offer once. -/
structure Shared (names : Nat → String) (explicit : Nat → List Attribute) (count : Nat)
    (relationships : List Relationship) (derived : List DerivedAttribute)
    (shadowed : List Diagnostic) : Prop where
  inGraph : ∀ d ∈ derived, d.entity < count
  selected : ∀ v < count, ofEntity derived v =
    (share names explicit derived (derivableFrom relationships v) v).1
  reported : shadowed.Perm ((List.range count).flatMap fun v =>
    (share names explicit derived (derivableFrom relationships v) v).2.map
      (report names relationships))

theorem flatMap_eq_of_eq_nil {α β : Type} {l : List α} (nodup : l.Nodup) {a : α} (mem : a ∈ l)
    {f : α → List β} (elsewhere : ∀ b, b ≠ a → f b = []) : l.flatMap f = f a := by
  obtain ⟨before, after, rfl⟩ := List.append_of_mem mem
  obtain ⟨-, tailNodup, differ⟩ := List.nodup_append.mp nodup
  have none {part : List α} (other : ∀ b ∈ part, b ≠ a) : part.flatMap f = [] :=
    List.flatMap_eq_nil_iff.mpr fun b bMem => elsewhere b (other b bMem)
  rw [List.flatMap_append, List.flatMap_cons, none fun b bMem => differ b bMem a (by simp),
    none fun b bMem => ?_, List.append_nil, List.nil_append]
  rintro rfl
  exact (List.nodup_cons.mp tailNodup).1 bMem

/-- Grouping by entity changes the attributes of no entity. -/
theorem ofEntity_grouped {count v : Nat} (inGraph : v < count) (derived : List DerivedAttribute) :
    ofEntity ((List.range count).flatMap (ofEntity derived)) v = ofEntity derived v := by
  have nested (w : Nat) : ofEntity (ofEntity derived w) v =
      derived.filter fun d => d.entity == v && d.entity == w := by
    rw [ofEntity, ofEntity, List.filter_filter]
  rw [ofEntity, List.filter_flatMap]
  refine (flatMap_eq_of_eq_nil List.nodup_range (List.mem_range.mpr inGraph) ?_).trans ?_
  · intro w differs
    refine (nested w).trans (List.filter_eq_nil_iff.mpr ?_)
    intro d _
    simp only [Bool.and_eq_true, beq_iff_eq, not_and]
    rintro same rfl
    exact differs same
  · exact (nested v).trans (by simp [ofEntity])

theorem shared_derive {count : Nat} {relationships : List Relationship}
    (atPlace : ∀ r ∈ relationships, relationships[r.index]? = some r)
    (bounded : ∀ r ∈ relationships, r.source < count ∧ r.target < count)
    (acyclic : cycle? count relationships = none) :
    Shared names explicit count relationships (derive count names explicit relationships).derived
      (derive count names explicit relationships).shadowed := by
  have settles := settles_settleOrder bounded acyclic
  have known {r : Relationship} (mem : r ∈ settleOrder count relationships) :
      r ∈ relationships ∧ r.derivable = true :=
    (settles.mem_iff (fun s sMem => (bounded s sMem).1) r).mp mem
  obtain ⟨pairwise, irreflexive⟩ := settles.ready.pairwise fun r mem => by
    rw [List.nil_append]
    exact settles.complete r.target (bounded r (known mem).1).2
  have start : Halfway names explicit count relationships [] { derived := [], shadowed := [] } :=
    { selected := fun v => by simp [ofEntity, share, startingAt, offers, selectFree]
      reported := by simp [share, startingAt, offers, selectFree] }
  have finish := start.run settles.inGraph (fun r mem => atPlace r (known mem).1)
    (by simpa using pairwise) irreflexive
  rw [List.nil_append] at finish
  -- What an entity is offered is seen from the grouped attributes as from the others.
  have sameShare (v : Nat) (inGraph : v < count) :
      share names explicit (derive count names explicit relationships).derived
        (derivableFrom relationships v) v =
      share names explicit ((settleOrder count relationships).foldl (settle names explicit)
        { derived := [], shadowed := [] }).derived
        (startingAt (settleOrder count relationships) v) v := by
    rw [settles.complete v inGraph, share, share]
    congr 1
    refine offers_congr fun r mem => ofEntity_grouped ?_ _
    exact (bounded r (mem_derivableFrom.mp mem).1).2
  constructor
  · intro d mem
    obtain ⟨v, vMem, dMem⟩ := List.mem_flatMap.mp mem
    have owner : d.entity = v := by simpa using (List.mem_filter.mp dMem).2
    exact owner ▸ List.mem_range.mp vMem
  · intro v inGraph
    rw [sameShare v inGraph, ← finish.selected v]
    exact ofEntity_grouped inGraph _
  · refine finish.reported.trans (List.Perm.of_eq ?_)
    refine List.flatMap_congr fun v mem => ?_
    rw [sameShare v (List.mem_range.mp mem)]

end Offers

end FactModel.Derivation
