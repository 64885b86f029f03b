import FactModel.Proofs.Schema.Keys
import FactModel.Proofs.Schema.Ordering

/-!
# When the tables of a graph refer to each other in a circle

The tables of a mapped graph need each other as the entities refer to each other: along a
relationship to one, and against a relationship to many.  They can be ordered just when the entities
do not refer to each other in a circle.
-/

namespace FactModel

namespace Graph

/-- Whether rows of one entity refer to rows of another one, by a relationship to one from the
former or by a relationship to many from the latter. -/
def Refers (g : Graph) (i j : Nat) : Prop :=
  i ≠ j ∧ ∃ r ∈ g.relationships, (r.derivable = true ∧ r.source = i ∧ r.target = j) ∨
    (r.cardinality = .oneToMany ∧ r.target = i ∧ r.source = j)

/-- Whether entities refer to each other in a circle. -/
def Circular (g : Graph) : Prop :=
  ∃ i, Relation.TransGen g.Refers i i

theorem refers_iff {g : Graph} {i j : Nat} :
    g.Refers i j ↔ i ≠ j ∧ ∃ r ∈ g.relationships, r.holder = i ∧ r.referred = j := by
  have ends (r : Relationship) : (r.derivable = true ∧ r.source = i ∧ r.target = j) ∨
      (r.cardinality = .oneToMany ∧ r.target = i ∧ r.source = j) ↔
        r.holder = i ∧ r.referred = j := by
    have isMany := r.isToMany_iff
    cases derivable : r.derivable with
    | true =>
      have many : r.cardinality ≠ .oneToMany := by simpa [derivable] using isMany
      simp [r.holder_of_derivable derivable, r.referred_of_derivable derivable, many]
    | false =>
      have many : r.cardinality = .oneToMany := by simpa [derivable] using isMany
      simp [r.holder_of_not_derivable derivable, r.referred_of_not_derivable derivable, many]
  simp only [Refers, ends]

end Graph

namespace Mapping

section

variable {doc : Document} {g : Graph} (compiled : Compiled doc g)

include compiled

theorem names_nodup : ((Schema.ofGraph g).tables.map (·.name)).Nodup := by
  refine List.Nodup.map_on (fun t tMem u uMem same => ?_) (tables_indexed compiled).nodup
  obtain ⟨tBound, tSound⟩ := tableSound_of_mem compiled tMem
  obtain ⟨uBound, uSound⟩ := tableSound_of_mem compiled uMem
  refine (tables_indexed compiled).eq_of_index tMem uMem (nameOf_injective tBound uBound ?_)
  rw [← tSound.named, same, uSound.named]

theorem needs_iff {t u : Table} (tMem : t ∈ (Schema.ofGraph g).tables)
    (uMem : u ∈ (Schema.ofGraph g).tables) :
    (Schema.ofGraph g).Needs t u ↔ g.Refers t.entity u.entity := by
  obtain ⟨tBound, tSound⟩ := tableSound_of_mem compiled tMem
  obtain ⟨uBound, uSound⟩ := tableSound_of_mem compiled uMem
  have apart : u.name ≠ t.name ↔ t.entity ≠ u.entity := by
    rw [tSound.named, uSound.named, not_iff_not]
    exact ⟨fun same => (nameOf_injective uBound tBound same).symm, fun same => by rw [same]⟩
  rw [Graph.refers_iff, Schema.needs_iff, apart]
  constructor
  · rintro ⟨-, -, differ, k, kMem, refTable⟩
    obtain ⟨r, mem, holds, -, made, -⟩ := (tSound.keys k kMem).made
    refine ⟨differ, r, mem, holds, nameOf_injective (referred_lt compiled mem) uBound ?_⟩
    rw [← made, refTable, uSound.named]
  · rintro ⟨differ, r, mem, holds, refers⟩
    obtain ⟨k, t', -, table, tMem', kMem, -, -, refTable, -⟩ := keyFor?_eq_some_of_mem compiled mem
    have owner : t'.entity = t.entity := (Schema.of_tableOf table).2.trans holds
    obtain rfl := (tables_indexed compiled).eq_of_index tMem' tMem owner
    exact ⟨tMem, uMem, differ, k, kMem, by rw [refTable, refers, uSound.named]⟩

/-- A chain of references between entities is one of needs between their tables. -/
theorem needs_of_refers {i j : Nat} (chain : Relation.TransGen g.Refers i j) {t u : Table}
    (tMem : t ∈ (Schema.ofGraph g).tables) (uMem : u ∈ (Schema.ofGraph g).tables)
    (tOwner : t.entity = i) (uOwner : u.entity = j) :
    Relation.TransGen (Schema.ofGraph g).Needs t u := by
  induction chain generalizing u with
  | single refers =>
    subst tOwner uOwner
    exact .single ((needs_iff compiled tMem uMem).mpr refers)
  | @tail k j chain refers ih =>
    obtain ⟨-, r, mem, rfl, -⟩ := Graph.refers_iff.mp refers
    obtain ⟨between, betweenMem, table, -⟩ := tableOf_eq_ok compiled (holder_lt compiled mem)
    have owner := (Schema.of_tableOf table).2
    refine (ih betweenMem owner).tail ((needs_iff compiled betweenMem uMem).mpr ?_)
    rwa [owner, uOwner]

/-- The tables can be ordered just when the entities do not refer to each other in a circle. -/
theorem creationOrder_isOk_iff :
    (∃ ordered, (Schema.ofGraph g).creationOrder = .ok ordered) ↔ ¬g.Circular := by
  rw [Schema.creationOrder_isOk_iff (names_nodup compiled), not_iff_not]
  constructor
  · rintro ⟨t, circle⟩
    exact ⟨t.entity, circle.lift Table.entity fun t u needs =>
      (needs_iff compiled needs.1 needs.2.1).mp needs⟩
  · rintro ⟨i, circle⟩
    obtain ⟨j, refers, -⟩ := Relation.TransGen.head'_iff.mp circle
    obtain ⟨-, r, mem, rfl, -⟩ := Graph.refers_iff.mp refers
    obtain ⟨t, tMem, table, -⟩ := tableOf_eq_ok compiled (holder_lt compiled mem)
    have owner := (Schema.of_tableOf table).2
    exact ⟨t, needs_of_refers compiled circle tMem tMem owner owner⟩

end

end Mapping

end FactModel
