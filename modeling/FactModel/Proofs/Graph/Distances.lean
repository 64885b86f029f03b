import FactModel.Artifact.Matrix
import FactModel.Proofs.Graph.Frontiers
import FactModel.Proofs.Graph.Soundness

/-!
# Distances between entities

The chain that is found between two entities is the shortest one and, among those that are as short,
the first in lexicographic order.  A distance in the matrix is its length, and it is missing just
where no chain leads.
-/

namespace FactModel

namespace Path

/-- A walk with one more edge in front of it. -/
theorem Walk.cons {edges : Nat → List (Nat × Nat)} {source label node target : Nat}
    {path : List Nat} (edge : (label, node) ∈ edges source) (walk : Walk edges node path target) :
    Walk edges source (label :: path) target := by
  induction walk with
  | nil => exact .concat .nil edge
  | concat _ last ih => exact .concat ih last

end Path

namespace Graph

variable {g : Graph}

theorem mem_derivableEdges {entity label target : Nat} :
    (label, target) ∈ g.derivableEdges entity ↔ ∃ r ∈ g.relationships, r.derivable = true ∧
      r.source = entity ∧ r.index = label ∧ r.target = target := by
  simp only [derivableEdges, outgoing, List.mem_map, List.mem_filter, beq_iff_eq, Prod.mk.injEq]
  constructor
  · rintro ⟨r, ⟨⟨mem, source⟩, derivable⟩, index, isTarget⟩
    exact ⟨r, mem, derivable, source, index, isTarget⟩
  · rintro ⟨r, mem, derivable, source, index, isTarget⟩
    exact ⟨r, ⟨⟨mem, source⟩, derivable⟩, index, isTarget⟩

theorem Chain.concat {first last : Nat} {path : List Nat} (chain : g.Chain first path last)
    {r : Relationship} (mem : r ∈ g.relationships) (derivable : r.derivable = true)
    (source : r.source = last) : g.Chain first (path ++ [r.index]) r.target := by
  induction chain with
  | nil entity =>
    subst source
    exact .cons mem derivable (.nil r.target)
  | cons sMem sDerivable _ ih => exact .cons sMem sDerivable (ih source)

/-- Chains of relationships are what a search walks along. -/
theorem chain_iff_walk {first last : Nat} {path : List Nat} :
    g.Chain first path last ↔ Path.Walk g.derivableEdges first path last := by
  constructor
  · intro chain
    induction chain with
    | nil => exact .nil
    | cons mem derivable _ ih =>
      exact .cons (mem_derivableEdges.mpr ⟨_, mem, derivable, rfl, rfl, rfl⟩) ih
  · intro walk
    induction walk with
    | nil => exact .nil first
    | concat _ edge ih =>
      rcases mem_derivableEdges.mp edge with ⟨r, mem, derivable, source, rfl, rfl⟩
      exact ih.concat mem derivable source

/-- A chain of the fewest relationships between two entities, and of all those the first in
lexicographic order of positions. -/
structure Nearest (g : Graph) (first : Nat) (path : List Nat) (last : Nat) : Prop where
  chain : g.Chain first path last
  shortest : ∀ other, g.Chain first other last → path.length ≤ other.length
  earliest : ∀ other, g.Chain first other last → other.length = path.length → path ≤ other

theorem nearest_iff_canonical {first last : Nat} {path : List Nat} :
    g.Nearest first path last ↔ Path.Canonical g.derivableEdges first path last := by
  constructor
  · rintro ⟨chain, shortest, earliest⟩
    simp only [chain_iff_walk] at chain shortest earliest
    exact ⟨chain, shortest, earliest⟩
  · rintro ⟨walk, shortest, first⟩
    simp only [← chain_iff_walk] at walk shortest first
    exact ⟨walk, shortest, first⟩

end Graph

namespace Compiled

variable {doc : Document} {g : Graph} (compiled : Compiled doc g)

include compiled

theorem derivableEdges_pairwise (entity : Nat) :
    (g.derivableEdges entity).Pairwise fun e f => e.1 < f.1 := by
  rw [Graph.derivableEdges, List.pairwise_map]
  apply List.Pairwise.filter
  apply List.Pairwise.filter
  exact compiled.wellFormed.apart.relationshipIndex.pairwise

theorem derivableEdges_lt (entity : Nat) :
    ∀ e ∈ g.derivableEdges entity, e.2 < g.entities.length := by
  intro e mem
  rcases Graph.mem_derivableEdges.mp mem with ⟨r, rMem, -, -, -, isTarget⟩
  rw [← isTarget]
  exact (compiled.ends_lt rMem).2

variable {first : Nat} (inside : first < g.entities.length)

include inside

theorem derivationPath?_eq_none_iff {last : Nat} :
    g.derivationPath? first last = none ↔ ∀ path, ¬g.Chain first path last := by
  simp only [Graph.chain_iff_walk]
  exact Path.shortest?_eq_none_iff compiled.derivableEdges_pairwise compiled.derivableEdges_lt
    inside

theorem derivationPath?_eq_some_iff {last : Nat} {path : List Nat} :
    g.derivationPath? first last = some path ↔ g.Nearest first path last := by
  rw [Graph.nearest_iff_canonical]
  exact Path.shortest?_eq_some_iff compiled.derivableEdges_pairwise compiled.derivableEdges_lt
    inside

/-- One entity reaches another just when a chain leads from it to the other. -/
theorem reaches_iff {last : Nat} :
    g.reaches first last = true ↔ ∃ path, g.Chain first path last := by
  rw [Graph.reaches, Option.isSome_iff_ne_none, ne_eq, compiled.derivationPath?_eq_none_iff inside]
  simp

theorem distance?_eq_some_iff {last n : Nat} :
    g.distance? first last = some n ↔
      (∃ path, g.Chain first path last ∧ path.length = n) ∧
        ∀ path, g.Chain first path last → n ≤ path.length := by
  rw [Graph.distance?, Option.map_eq_some_iff]
  constructor
  · rintro ⟨path, found, rfl⟩
    have nearest := (compiled.derivationPath?_eq_some_iff inside).mp found
    exact ⟨⟨path, nearest.chain, rfl⟩, nearest.shortest⟩
  · rintro ⟨⟨path, chain, length⟩, least⟩
    have reached : (g.derivationPath? first last).isSome = true :=
      (compiled.reaches_iff inside).mpr ⟨path, chain⟩
    rcases Option.isSome_iff_exists.mp reached with ⟨p, found⟩
    have nearest := (compiled.derivationPath?_eq_some_iff inside).mp found
    refine ⟨p, found, Nat.le_antisymm ?_ (least p nearest.chain)⟩
    rw [← length]
    exact nearest.shortest path chain

end Compiled

namespace Graph

/-- The chains between two entities are measured.

* The chain that is found is empty just from an entity to itself, and there is none just when no
  chain leads from the first to the second.
* It is the shortest chain and, of the shortest ones, the first.
* The cell of the matrix is empty just when no chain leads from the first to the second, and else it
  holds the least number of relationships in such a chain. -/
structure Measured (g : Graph) (first last : Nat) : Prop where
  empty : g.derivationPath? first last = some [] ↔ first = last
  missing : g.derivationPath? first last = none ↔ ∀ path, ¬g.Chain first path last
  nearest : ∀ path, g.derivationPath? first last = some path ↔ g.Nearest first path last
  cell : ∃ distance, (g.distances first)[last]? = some distance ∧
    (distance = none ↔ ∀ path, ¬g.Chain first path last) ∧
    ∀ n, distance = some n ↔ (∃ path, g.Chain first path last ∧ path.length = n) ∧
      ∀ path, g.Chain first path last → n ≤ path.length

end Graph

/-- In a compiled graph the chains between any two entities are measured. -/
theorem measured_of_compile {text : String} {g : Graph} (compiles : compile text = .ok g)
    {first last : Nat} (firstInside : first < g.entities.length)
    (lastInside : last < g.entities.length) : g.Measured first last := by
  rcases compiled_of_compile compiles with ⟨doc, -, compiled⟩
  have missing : g.derivationPath? first last = none ↔ ∀ path, ¬g.Chain first path last :=
    compiled.derivationPath?_eq_none_iff firstInside
  have nearest (path : List Nat) :
      g.derivationPath? first last = some path ↔ g.Nearest first path last :=
    compiled.derivationPath?_eq_some_iff firstInside
  constructor
  · constructor
    · intro found
      exact Graph.chain_nil_iff.mp ((nearest []).mp found).chain
    · rintro rfl
      exact Path.shortest?_self ..
  · exact missing
  · exact nearest
  · have isLast : g.entities[last].index = last :=
      compiled.wellFormed.placed.entityIndex last _ (List.getElem?_eq_getElem lastInside)
    refine ⟨g.distance? first last, ?_, ?_, ?_⟩
    · rw [Graph.distances, List.getElem?_map, List.getElem?_eq_getElem lastInside, Option.map_some,
        isLast]
    · rw [Graph.distance?, Option.map_eq_none_iff]
      exact missing
    · intro n
      exact compiled.distance?_eq_some_iff firstInside

/-- Two ways lead from the first entity to the last, both across one more. -/
def diamondText : String :=
  "**A**\n- It has a B.\n- It has a C.\n**B**\n- It has a D.\n**C**\n- It has a D.\n**D**\n"

/-- Of two shortest ways the one stated first is found. -/
theorem measured_across_diamond : ∃ g, compile diamondText = .ok g ∧
    g.derivationPath? 0 3 = some [0, 2] ∧ 0 < g.entities.length ∧ 3 < g.entities.length ∧
      g.Measured 0 3 := by
  have passes : compilesTo diamondText (fun g => decide (g.derivationPath? 0 3 = some [0, 2] ∧
      0 < g.entities.length ∧ 3 < g.entities.length)) = true := by
    decide +kernel
  rcases of_compilesTo passes with ⟨g, compiles, shown⟩
  rcases of_decide_eq_true shown with ⟨found, firstInside, lastInside⟩
  exact ⟨g, compiles, found, firstInside, lastInside,
    measured_of_compile compiles firstInside lastInside⟩

end FactModel
