import FactModel.Proofs.Graph.Compiling

/-!
# What entities are offered

Across each derivable relationship the source is offered the attributes of the target, explicit and
derived.  An offer is known by its path and the explicit attribute at its end: no entity is offered
the same attribute along the same path twice, so that it is clear which offers are rejected.
-/

namespace FactModel

open Arena

/-- How many attributes of a list have the given path and the given source. -/
def occurrences (ds : List DerivedAttribute) (path : List Nat) (source : Nat) : Nat :=
  ds.countP fun d => d.path == path && d.source == source

namespace Derivation

variable {names : Nat → String} {explicit : Nat → List Attribute}

/-- A path that begins with a relationship is offered as often as the rest of it is had. -/
theorem occurrences_candidates (state : State) (r : Relationship) (rest : List Nat) (a : Nat) :
    occurrences (candidates names explicit state r) (r.index :: rest) a =
      (if rest = [] then ((explicit r.target).filter (·.type ≠ .reference)).countP (·.index == a)
        else 0) + occurrences (ofEntity state.derived r.target) rest a := by
  rw [candidates, occurrences, List.countP_append, List.countP_map, List.countP_map]
  congr 1
  · by_cases done : rest = []
    · subst done
      simp [Function.comp_def]
    · simp [Function.comp_def, done]
  · simp [occurrences, ofEntity, Function.comp_def]

theorem occurrences_candidates_of_ne {state : State} {r : Relationship} {path : List Nat}
    (differs : path.head? ≠ some r.index) (a : Nat) :
    occurrences (candidates names explicit state r) path a = 0 := by
  rw [occurrences, List.countP_eq_zero]
  intro d mem
  have head := (of_mem_candidates mem).2
  simp only [Bool.and_eq_true, beq_iff_eq, not_and]
  rintro rfl
  exact absurd head differs

theorem occurrences_append (first second : List DerivedAttribute) (path : List Nat) (a : Nat) :
    occurrences (first ++ second) path a = occurrences first path a + occurrences second path a :=
  List.countP_append

theorem occurrences_offers_of_ne {derived : List DerivedAttribute} {rs : List Relationship}
    {path : List Nat} (differs : ∀ r ∈ rs, path.head? ≠ some r.index) (a : Nat) :
    occurrences (offers names explicit derived rs) path a = 0 := by
  induction rs with
  | nil => rfl
  | cons r rest ih =>
    rw [offers, List.flatMap_cons, occurrences_append,
      occurrences_candidates_of_ne (differs r (by simp))]
    simpa [offers] using ih fun s mem => differs s (List.mem_cons_of_mem _ mem)

/-- Of relationships at different positions just one offers anything along a given path. -/
theorem occurrences_offers_of_mem {derived : List DerivedAttribute} {rs : List Relationship}
    (nodup : rs.Nodup) {r : Relationship} (mem : r ∈ rs)
    (unique : ∀ s ∈ rs, r.index = s.index → r = s) (rest : List Nat) (a : Nat) :
    occurrences (offers names explicit derived rs) (r.index :: rest) a =
      occurrences (candidates names explicit { derived, shadowed := [] } r) (r.index :: rest) a := by
  obtain ⟨before, after, rfl⟩ := List.append_of_mem mem
  obtain ⟨-, tailNodup, differ⟩ := List.nodup_append.mp nodup
  have none {part : List Relationship} (within : ∀ s ∈ part, s ∈ before ++ r :: after)
      (other : ∀ s ∈ part, s ≠ r) :
      occurrences (offers names explicit derived part) (r.index :: rest) a = 0 := by
    refine occurrences_offers_of_ne (fun s sMem same => ?_) a
    exact other s sMem (unique s (within s sMem) (Option.some.inj same)).symm
  have split : offers names explicit derived (before ++ r :: after) =
      offers names explicit derived before ++
        (candidates names explicit { derived, shadowed := [] } r ++
          offers names explicit derived after) := by
    simp [offers]
  rw [split, occurrences_append, occurrences_append, none, none]
  · omega
  · intro s sMem
    simp [sMem]
  · rintro s sMem rfl
    exact (List.nodup_cons.mp tailNodup).1 sMem
  · intro s sMem
    simp [sMem]
  · intro s sMem
    exact differ s sMem r (by simp)

/-- Of different offers those that are not selected are the others. -/
theorem filter_not_mem_selectFree (taken : List String) {ds : List DerivedAttribute}
    (nodup : ds.Nodup) :
    ds.filter (· ∉ (selectFree taken ds).1) = (selectFree taken ds).2 := by
  induction ds generalizing taken with
  | nil => rfl
  | cons d rest ih =>
    obtain ⟨notThere, restNodup⟩ := List.nodup_cons.mp nodup
    by_cases clash : taken.contains (Name.key d.name) = true
    · have notSelected : d ∉ (selectFree taken rest).1 := fun mem =>
        notThere ((selectFree_sublist taken rest).1.subset mem)
      simp only [selectFree, clash, if_true]
      rw [List.filter_cons_of_pos (by simpa using notSelected), ih taken restNodup]
    · simp only [selectFree, clash, if_false, Bool.false_eq_true]
      rw [List.filter_cons_of_neg (by simp), ← ih _ restNodup]
      refine List.filter_congr fun e mem => ?_
      have differs : e ≠ d := fun same => notThere (same ▸ mem)
      simp [differs]

end Derivation

namespace Graph

/-- Derivable relationships, given by their positions, that lead from one entity to another. -/
inductive Chain (g : Graph) : Nat → List Nat → Nat → Prop where
  | nil (entity : Nat) : Chain g entity [] entity
  | cons {r : Relationship} {path : List Nat} {last : Nat} (mem : r ∈ g.relationships)
      (derivable : r.derivable = true) (rest : Chain g r.target path last) :
      Chain g r.source (r.index :: path) last

@[simp]
theorem chain_nil_iff {g : Graph} {first last : Nat} : g.Chain first [] last ↔ first = last := by
  constructor
  · intro chain
    cases chain
    rfl
  · rintro rfl
    exact .nil first

theorem chain_cons_iff {g : Graph} {first last i : Nat} {path : List Nat} :
    g.Chain first (i :: path) last ↔ ∃ r ∈ g.relationships, r.derivable = true ∧
      r.source = first ∧ r.index = i ∧ g.Chain r.target path last := by
  constructor
  · intro chain
    cases chain with
    | cons mem derivable rest => exact ⟨_, mem, derivable, rfl, rfl, rest⟩
  · rintro ⟨r, mem, derivable, rfl, rfl, rest⟩
    exact .cons mem derivable rest

theorem Chain.exists_of_mem {g : Graph} {first last i : Nat} {path : List Nat}
    (chain : g.Chain first path last) (mem : i ∈ path) :
    ∃ r ∈ g.relationships, r.derivable = true ∧ r.index = i := by
  induction chain with
  | nil => contradiction
  | cons rMem derivable rest ih =>
    rcases List.mem_cons.mp mem with rfl | later
    · exact ⟨_, rMem, derivable, rfl⟩
    · exact ih later

/-- What an entity is offered across its derivable relationships. -/
def offeredTo (g : Graph) (entity : Nat) : List DerivedAttribute :=
  Derivation.offers g.entityName g.attributesOf g.derived
    (Derivation.derivableFrom g.relationships entity)

/-- The offers that an entity does not take over. -/
def rejectedAt (g : Graph) (entity : Nat) : List DerivedAttribute :=
  (g.offeredTo entity).filter (· ∉ g.derivedOf entity)

/-- The offers that an entity selects, and those that it does not. -/
def selection (g : Graph) (entity : Nat) : List DerivedAttribute × List DerivedAttribute :=
  Derivation.selectFree ((g.attributesOf entity).map (Name.key ·.name)) (g.offeredTo entity)

/-- An offer comes from an explicit attribute of a target or from a derived one. -/
theorem offeredTo_cases {g : Graph} {entity : Nat} {d : DerivedAttribute} (offered : d ∈ g.offeredTo entity) :
    ∃ r ∈ g.relationships, r.derivable = true ∧ r.source = entity ∧ d.entity = entity ∧
      ((∃ a ∈ g.attributesOf r.target, a.type ≠ .reference ∧ d.path = [r.index] ∧
          d.source = a.index ∧ d.type = a.type ∧ d.name = s!"{g.entityName r.target} {a.name}") ∨
        ∃ e ∈ g.derivedOf r.target, d.path = r.index :: e.path ∧ d.source = e.source ∧
          d.type = e.type ∧ d.name = s!"{g.entityName r.target} {e.name}") := by
  obtain ⟨r, rMem, across⟩ := List.mem_flatMap.mp offered
  obtain ⟨mem, derivable, rfl⟩ := Derivation.mem_derivableFrom.mp rMem
  refine ⟨r, mem, derivable, rfl, (Derivation.of_mem_candidates across).1, ?_⟩
  rw [Derivation.candidates, List.mem_append, List.mem_map, List.mem_map] at across
  rcases across with ⟨a, aMem, rfl⟩ | ⟨e, eMem, rfl⟩
  · obtain ⟨aMem, plain⟩ := List.mem_filter.mp aMem
    exact .inl ⟨a, aMem, by simpa using plain, rfl, rfl, rfl, rfl⟩
  · exact .inr ⟨e, eMem, rfl, rfl, rfl, rfl⟩

end Graph

namespace Compiled

variable {doc : Document} {g : Graph} (compiled : Compiled doc g)

include compiled

theorem ends_lt {r : Relationship} (mem : r ∈ g.relationships) :
    r.source < g.entities.length ∧ r.target < g.entities.length := by
  have ends := compiled.wellFormed.apart.ends r mem
  rw [Draft.length_names] at ends
  exact ends

theorem relationship_getElem? {r : Relationship} (mem : r ∈ g.relationships) :
    g.relationships[r.index]? = some r :=
  compiled.wellFormed.apart.relationshipIndex.getElem? mem

/-- Relationships at the same position are the same. -/
theorem eq_of_index {r s : Relationship} (rMem : r ∈ g.relationships) (sMem : s ∈ g.relationships)
    (same : r.index = s.index) : r = s :=
  compiled.wellFormed.apart.relationshipIndex.eq_of_index rMem sMem same

theorem derivedOf_eq (entity : Nat) : g.derivedOf entity = (g.selection entity).1 := by
  by_cases inGraph : entity < g.entities.length
  · exact compiled.shared.selected entity inGraph
  · have noOffers : Derivation.derivableFrom g.relationships entity = [] := by
      rw [List.eq_nil_iff_forall_not_mem]
      intro r mem
      obtain ⟨rMem, -, rfl⟩ := Derivation.mem_derivableFrom.mp mem
      exact inGraph (compiled.ends_lt rMem).1
    have none : g.derivedOf entity = [] := by
      rw [Graph.derivedOf, List.filter_eq_nil_iff]
      intro d mem
      have := compiled.shared.inGraph d mem
      simp only [beq_iff_eq]
      omega
    rw [none, Graph.selection, Graph.offeredTo, noOffers]
    rfl

/-- The offers along a path are those along its rest. -/
theorem occurrences_offeredTo {r : Relationship} (mem : r ∈ g.relationships)
    (derivable : r.derivable = true) (rest : List Nat) (a : Nat) :
    occurrences (g.offeredTo r.source) (r.index :: rest) a =
      (if rest = [] then
        ((g.attributesOf r.target).filter (·.type ≠ .reference)).countP (·.index == a) else 0) +
        occurrences (g.derivedOf r.target) rest a := by
  have rMem : r ∈ Derivation.derivableFrom g.relationships r.source :=
    Derivation.mem_derivableFrom.mpr ⟨mem, derivable, rfl⟩
  have nodup : (Derivation.derivableFrom g.relationships r.source).Nodup :=
    compiled.wellFormed.apart.relationshipIndex.nodup.filter _
  have unique (s : Relationship) (sMem : s ∈ Derivation.derivableFrom g.relationships r.source)
      (same : r.index = s.index) : r = s :=
    compiled.eq_of_index mem (Derivation.mem_derivableFrom.mp sMem).1 same
  rw [Graph.offeredTo, Derivation.occurrences_offers_of_mem nodup rMem unique,
    Derivation.occurrences_candidates]
  rfl

theorem attributesOf_eq (entity : Nat) :
    g.attributesOf entity = g.attributes.filter (·.entity == entity) :=
  Draft.attributesOf_eq_filter compiled.wellFormed.placed entity

/-- An entity has no attribute twice. -/
theorem countP_plain_le_one (entity a : Nat) :
    ((g.attributesOf entity).filter (·.type ≠ .reference)).countP (·.index == a) ≤ 1 := by
  have nodup : ((g.attributesOf entity).map (·.index)).Nodup := by
    rw [compiled.attributesOf_eq]
    exact compiled.wellFormed.placed.attributeIndex.nodup_map_filter _
  refine Nat.le_trans (List.filter_sublist.countP_le) ?_
  have counted := List.nodup_iff_count_le_one.mp nodup a
  rwa [List.count_eq_countP, List.countP_map] at counted

theorem derivedOf_sublist (entity : Nat) : (g.derivedOf entity).Sublist (g.offeredTo entity) := by
  rw [compiled.derivedOf_eq]
  exact (Derivation.selectFree_sublist _ _).1

/-- No entity is offered an attribute twice along the same path. -/
theorem occurrences_offeredTo_le_one (entity : Nat) (path : List Nat) (a : Nat) :
    occurrences (g.offeredTo entity) path a ≤ 1 := by
  induction path generalizing entity with
  | nil =>
    rw [Graph.offeredTo, Derivation.occurrences_offers_of_ne (by simp)]
    exact Nat.zero_le 1
  | cons i rest ih =>
    by_cases starts : ∃ r ∈ Derivation.derivableFrom g.relationships entity, r.index = i
    · obtain ⟨r, rMem, rfl⟩ := starts
      obtain ⟨mem, derivable, rfl⟩ := Derivation.mem_derivableFrom.mp rMem
      rw [compiled.occurrences_offeredTo mem derivable]
      have fewer : occurrences (g.derivedOf r.target) rest a ≤
          occurrences (g.offeredTo r.target) rest a :=
        (compiled.derivedOf_sublist r.target).countP_le
      split
      · next done =>
        subst done
        have none : occurrences (g.offeredTo r.target) [] a = 0 :=
          Derivation.occurrences_offers_of_ne (by simp) a
        have once := compiled.countP_plain_le_one r.target a
        omega
      · exact Nat.le_trans (by omega) (ih r.target)
    · rw [Graph.offeredTo, Derivation.occurrences_offers_of_ne]
      · exact Nat.zero_le 1
      · intro r mem same
        exact starts ⟨r, mem, (Option.some.inj same).symm⟩

theorem offeredTo_nodup (entity : Nat) : (g.offeredTo entity).Nodup := by
  rw [List.nodup_iff_count_le_one]
  intro d
  refine Nat.le_trans ?_ (compiled.occurrences_offeredTo_le_one entity d.path d.source)
  rw [List.count_eq_countP]
  refine List.countP_mono_left fun e _ same => ?_
  simp [eq_of_beq same]

/-- The offers rejected at an entity are those not selected. -/
theorem rejectedAt_eq (entity : Nat) : g.rejectedAt entity = (g.selection entity).2 := by
  rw [Graph.rejectedAt, compiled.derivedOf_eq]
  exact Derivation.filter_not_mem_selectFree _ (compiled.offeredTo_nodup entity)

/-- Every offer is taken over or rejected. -/
theorem derivedOf_append_rejectedAt (entity : Nat) :
    (g.derivedOf entity ++ g.rejectedAt entity).Perm (g.offeredTo entity) := by
  rw [compiled.derivedOf_eq, compiled.rejectedAt_eq]
  exact Derivation.selectFree_perm _ _

/-- A derived attribute stands for an explicit one at the end of a chain from its entity. -/
theorem chain_of_mem_derived {d : DerivedAttribute} (mem : d ∈ g.derived) :
    d.path ≠ [] ∧ ∃ last, g.Chain d.entity d.path last ∧
      ∃ a ∈ g.attributesOf last, a.type ≠ .reference ∧ a.index = d.source ∧ a.type = d.type := by
  induction path : d.path generalizing d with
  | nil =>
    have offered := (compiled.derivedOf_sublist d.entity).subset
      (List.mem_filter.mpr ⟨mem, beq_self_eq_true _⟩)
    obtain ⟨r, -, -, -, -, ⟨a, -, -, begins, -⟩ | ⟨e, -, begins, -⟩⟩ :=
      Graph.offeredTo_cases offered
    · simp [path] at begins
    · simp [path] at begins
  | cons i rest ih =>
    refine ⟨by simp, ?_⟩
    have offered := (compiled.derivedOf_sublist d.entity).subset
      (List.mem_filter.mpr ⟨mem, beq_self_eq_true _⟩)
    obtain ⟨r, rMem, derivable, source, -, ⟨a, aMem, plain, begins, ofA, type, -⟩ |
      ⟨e, eMem, begins, ofE, type, -⟩⟩ := Graph.offeredTo_cases offered
    · obtain ⟨rfl, rfl⟩ := List.cons.inj (path.symm.trans begins)
      rw [← source]
      exact ⟨r.target, .cons rMem derivable (.nil _), a, aMem, plain, ofA.symm, type.symm⟩
    · obtain ⟨rfl, rfl⟩ := List.cons.inj (path.symm.trans begins)
      obtain ⟨eMem, owner⟩ := List.mem_filter.mp eMem
      obtain ⟨-, last, chain, a, aMem, plain, ofA, ofType⟩ := ih eMem rfl
      rw [eq_of_beq owner] at chain
      rw [← source]
      exact ⟨last, .cons rMem derivable chain, a, aMem, plain, ofA.trans ofE.symm,
        ofType.trans type.symm⟩

end Compiled

end FactModel
