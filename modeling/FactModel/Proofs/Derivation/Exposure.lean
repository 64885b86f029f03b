import FactModel.Proofs.Derivation.Offers
import Mathlib.Algebra.GroupWithZero.Nat

/-!
# Every reachable attribute is exposed or reported

An explicit attribute at the end of a chain of relationships is either exposed at the start of the
chain, or it was lost on the way: at exactly one entity, where it was offered under a name that was
taken.  The proof follows the chain from its end, since what an entity is offered along a path is
what the next entity has along the rest of it.
-/

namespace FactModel

namespace Derivation

/-- Of different offers one is not selected when its name is taken, or was selected before. -/
theorem mem_rejected_iff {taken : List String} {before after : List DerivedAttribute}
    {d : DerivedAttribute} (nodup : (before ++ d :: after).Nodup) :
    d ∈ (selectFree taken (before ++ d :: after)).2 ↔
      Name.key d.name ∈ taken ∨ ∃ e ∈ before,
        e ∈ (selectFree taken (before ++ d :: after)).1 ∧ Name.key e.name = Name.key d.name := by
  obtain ⟨-, tailNodup, differ⟩ := List.nodup_append.mp nodup
  have notAfter := (List.nodup_cons.mp tailNodup).1
  rw [selectFree_append]
  simp only
  generalize earlyEq : selectFree taken before = early
  have early_sublist := earlyEq ▸ selectFree_sublist taken before
  have selectedBefore (e : DerivedAttribute) (mem : e ∈ before)
      (selected : e ∈ early.1 ++ (selectFree (early.1.map (Name.key ·.name) ++ taken)
        (d :: after)).1) : e ∈ early.1 := by
    rcases List.mem_append.mp selected with here | later
    · exact here
    · exact absurd rfl (differ e mem e ((selectFree_sublist _ _).1.subset later))
  have sameTaken : Name.key d.name ∈ early.1.map (Name.key ·.name) ++ taken ↔
      Name.key d.name ∈ taken ∨ ∃ e ∈ before, e ∈ early.1 ++
        (selectFree (early.1.map (Name.key ·.name) ++ taken) (d :: after)).1 ∧
          Name.key e.name = Name.key d.name := by
    rw [List.mem_append, List.mem_map, or_comm]
    refine or_congr_right ⟨?_, ?_⟩
    · rintro ⟨e, mem, same⟩
      exact ⟨e, early_sublist.1.subset mem, List.mem_append_left _ mem, same⟩
    · rintro ⟨e, mem, selected, same⟩
      exact ⟨e, selectedBefore e mem selected, same⟩
  rw [← sameTaken, List.mem_append]
  constructor
  · rintro (here | later)
    · exact absurd rfl (differ d (early_sublist.2.subset here) d (by simp))
    · by_contra free
      simp only [selectFree, List.contains_iff_mem, free, if_false] at later
      exact notAfter ((selectFree_sublist _ _).2.subset later)
  · intro clash
    right
    simp [selectFree, clash]

end Derivation

namespace Graph

/-- An attribute is rejected where a path to its entity starts: the entity there is offered it along
the path, and does not take it over. -/
def RejectedAlong (g : Graph) (path : List Nat) (last a : Nat) : Prop :=
  ∃ first, g.Chain first path last ∧ occurrences (g.rejectedAt first) path a = 1

/-- The report on an offer that is rejected. -/
def shadowReport (g : Graph) (d : DerivedAttribute) : Diagnostic :=
  Derivation.report g.entityName g.relationships d

/-- No attribute gets lost unnoticed.

* At the end of a chain of relationships an attribute is exposed once at the start, and rejected
  nowhere on the way, or it is not exposed there and rejected at just one place of the way.
* An offer is rejected where its name is that of an explicit attribute or of an offer that was taken
  over before.
* Each rejected offer is reported, and nothing else is reported as shadowed.
* Taken over or rejected, each offer counts once. -/
structure Accounted (g : Graph) : Prop where
  exposed : ∀ first path last, g.Chain first path last → path ≠ [] →
    ∀ a ∈ g.attributesOf last, a.type ≠ .reference →
      (occurrences (g.derivedOf first) path a.index = 1 ∧
          ∀ rest, rest ≠ [] → rest <:+ path → ¬g.RejectedAlong rest last a.index) ∨
        (occurrences (g.derivedOf first) path a.index = 0 ∧
          ∃! rest, rest ≠ [] ∧ rest <:+ path ∧ g.RejectedAlong rest last a.index)
  rejected : ∀ entity before d after, g.offeredTo entity = before ++ d :: after →
    (d ∈ g.rejectedAt entity ↔
      (∃ a ∈ g.attributesOf entity, Name.key a.name = Name.key d.name) ∨
        ∃ e ∈ before, e ∈ g.derivedOf entity ∧ Name.key e.name = Name.key d.name)
  reported : (g.warningsOf .shadowedDerivedAttribute).Perm
    ((List.range g.entities.length).flatMap fun entity =>
      (g.rejectedAt entity).map g.shadowReport)
  counted : ∀ entity, (g.derivedOf entity).length + (g.rejectedAt entity).length =
    (((g.outgoing entity).filter (·.derivable)).map fun r =>
      ((g.attributesOf r.target).filter (·.type ≠ .reference)).length +
        (g.derivedOf r.target).length).sum

end Graph

namespace Compiled

variable {doc : Document} {g : Graph} (compiled : Compiled doc g)

include compiled

theorem occurrences_add (entity : Nat) (path : List Nat) (a : Nat) :
    occurrences (g.derivedOf entity) path a + occurrences (g.rejectedAt entity) path a =
      occurrences (g.offeredTo entity) path a := by
  rw [← Derivation.occurrences_append]
  exact (compiled.derivedOf_append_rejectedAt entity).countP_eq _

/-- A path that is not empty starts at one entity only. -/
theorem chain_start_unique {first first' last last' i : Nat} {path : List Nat}
    (chain : g.Chain first (i :: path) last) (chain' : g.Chain first' (i :: path) last') :
    first = first' := by
  obtain ⟨r, mem, -, rfl, index, -⟩ := Graph.chain_cons_iff.mp chain
  obtain ⟨s, mem', -, rfl, index', -⟩ := Graph.chain_cons_iff.mp chain'
  rw [compiled.eq_of_index mem mem' (index.trans index'.symm)]

theorem rejectedAlong_iff {first last i : Nat} {path : List Nat}
    (chain : g.Chain first (i :: path) last) (a : Nat) :
    g.RejectedAlong (i :: path) last a ↔
      occurrences (g.rejectedAt first) (i :: path) a = 1 := by
  constructor
  · rintro ⟨first', chain', once⟩
    rw [compiled.chain_start_unique chain chain']
    exact once
  · intro once
    exact ⟨first, chain, once⟩

theorem occurrences_derivedOf_nil (entity a : Nat) :
    occurrences (g.derivedOf entity) [] a = 0 := by
  refine Nat.le_zero.mp (Nat.le_trans (compiled.derivedOf_sublist entity).countP_le ?_)
  exact Nat.le_of_eq (Derivation.occurrences_offers_of_ne (by simp) a)

/-- An entity has each of its attributes once. -/
theorem countP_plain {entity : Nat} {a : Attribute} (mem : a ∈ g.attributesOf entity)
    (plain : a.type ≠ .reference) :
    ((g.attributesOf entity).filter (·.type ≠ .reference)).countP (·.index == a.index) = 1 := by
  refine Nat.le_antisymm (compiled.countP_plain_le_one entity a.index) ?_
  exact List.countP_pos_iff.mpr ⟨a, List.mem_filter.mpr ⟨mem, by simpa using plain⟩, by simp⟩

theorem exposed_or_rejected {first last : Nat} {path : List Nat}
    (chain : g.Chain first path last) (nonempty : path ≠ []) {a : Attribute}
    (mem : a ∈ g.attributesOf last) (plain : a.type ≠ .reference) :
    (occurrences (g.derivedOf first) path a.index = 1 ∧
        ∀ rest, rest ≠ [] → rest <:+ path → ¬g.RejectedAlong rest last a.index) ∨
      (occurrences (g.derivedOf first) path a.index = 0 ∧
        ∃! rest, rest ≠ [] ∧ rest <:+ path ∧ g.RejectedAlong rest last a.index) := by
  induction chain with
  | nil => contradiction
  | @cons r path last rMem derivable chain ih =>
    have whole := Graph.Chain.cons rMem derivable chain
    have offered := compiled.occurrences_offeredTo rMem derivable path a.index
    have shared := compiled.occurrences_add r.source (r.index :: path) a.index
    have rejected := compiled.rejectedAlong_iff whole a.index
    -- The attribute is offered here just when nothing was rejected further on.
    have further : (occurrences (g.offeredTo r.source) (r.index :: path) a.index = 1 ∧
          ∀ rest, rest ≠ [] → rest <:+ path → ¬g.RejectedAlong rest last a.index) ∨
        (occurrences (g.offeredTo r.source) (r.index :: path) a.index = 0 ∧
          ∃! rest, rest ≠ [] ∧ rest <:+ path ∧ g.RejectedAlong rest last a.index) := by
      by_cases done : path = []
      · subst done
        obtain rfl := Graph.chain_nil_iff.mp chain
        refine .inl ⟨?_, fun rest restNe suffix => absurd (List.suffix_nil.mp suffix) restNe⟩
        rw [offered, if_pos rfl, compiled.countP_plain mem plain,
          compiled.occurrences_derivedOf_nil]
      · rw [offered, if_neg done, Nat.zero_add]
        exact ih done mem
    rcases further with ⟨once, none⟩ | ⟨never, rest, ⟨restNe, suffix, along⟩, unique⟩
    · rw [once] at shared
      by_cases exposed : occurrences (g.derivedOf r.source) (r.index :: path) a.index = 1
      · refine .inl ⟨exposed, fun rest restNe suffix => ?_⟩
        rcases List.suffix_cons_iff.mp suffix with rfl | later
        · rw [rejected]
          omega
        · exact none rest restNe later
      · refine .inr ⟨by omega, r.index :: path, ⟨by simp, List.suffix_refl _, ?_⟩, ?_⟩
        · exact rejected.mpr (by omega)
        · rintro rest ⟨restNe, suffix, along⟩
          rcases List.suffix_cons_iff.mp suffix with rfl | later
          · rfl
          · exact absurd along (none rest restNe later)
    · rw [never] at shared
      refine .inr ⟨by omega, rest, ⟨restNe, suffix.trans (List.suffix_cons ..), along⟩, ?_⟩
      rintro other ⟨otherNe, otherSuffix, otherAlong⟩
      rcases List.suffix_cons_iff.mp otherSuffix with rfl | later
      · have := rejected.mp otherAlong
        omega
      · exact unique other ⟨otherNe, later, otherAlong⟩

theorem mem_rejectedAt_iff {entity : Nat} {before after : List DerivedAttribute}
    {d : DerivedAttribute} (split : g.offeredTo entity = before ++ d :: after) :
    d ∈ g.rejectedAt entity ↔
      (∃ a ∈ g.attributesOf entity, Name.key a.name = Name.key d.name) ∨
        ∃ e ∈ before, e ∈ g.derivedOf entity ∧ Name.key e.name = Name.key d.name := by
  have nodup := compiled.offeredTo_nodup entity
  rw [split] at nodup
  rw [compiled.rejectedAt_eq, compiled.derivedOf_eq, Graph.selection, split,
    Derivation.mem_rejected_iff nodup]
  simp

theorem reported_perm : (g.warningsOf .shadowedDerivedAttribute).Perm
    ((List.range g.entities.length).flatMap fun entity =>
      (g.rejectedAt entity).map g.shadowReport) := by
  refine compiled.shared.reported.trans (List.Perm.of_eq ?_)
  refine List.flatMap_congr fun entity _ => ?_
  rw [compiled.rejectedAt_eq]
  rfl

theorem length_offeredTo (entity : Nat) :
    (g.derivedOf entity).length + (g.rejectedAt entity).length =
      (((g.outgoing entity).filter (·.derivable)).map fun r =>
        ((g.attributesOf r.target).filter (·.type ≠ .reference)).length +
          (g.derivedOf r.target).length).sum := by
  rw [← List.length_append, (compiled.derivedOf_append_rejectedAt entity).length_eq,
    Graph.offeredTo, Derivation.offers, List.length_flatMap, Graph.outgoing, List.filter_filter]
  simp only [Derivation.candidates, List.length_append, List.length_map]
  rfl

end Compiled

/-- In a compiled graph every reachable attribute is exposed, or rejected once and reported. -/
theorem accounted_of_compile {text : String} {g : Graph} (compiles : compile text = .ok g) :
    g.Accounted := by
  obtain ⟨doc, -, compiled⟩ := compiled_of_compile compiles
  constructor
  · intro first path last chain nonempty a mem plain
    exact compiled.exposed_or_rejected chain nonempty mem plain
  · intro entity before d after split
    exact compiled.mem_rejectedAt_iff split
  · exact compiled.reported_perm
  · exact compiled.length_offeredTo

/-- One attribute is shadowed by an explicit one and one is exposed. -/
theorem accounted_shadowed : ∃ g,
    compile "**A**\n- A has a **B**.\n- A has a B c.\n**B**\n- B has a c.\n- B has a d.\n" = .ok g ∧
      ((g.derivedOf 0).length = 1 ∧ (g.rejectedAt 0).length = 1) ∧ g.Accounted := by
  have passes : compilesTo
      "**A**\n- A has a **B**.\n- A has a B c.\n**B**\n- B has a c.\n- B has a d.\n"
      (fun g => decide ((g.derivedOf 0).length = 1 ∧ (g.rejectedAt 0).length = 1)) = true := by
    decide +kernel
  obtain ⟨g, compiles, shown⟩ := of_compilesTo passes
  exact ⟨g, compiles, of_decide_eq_true shown, accounted_of_compile compiles⟩

end FactModel
