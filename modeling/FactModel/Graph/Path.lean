import FactModel.Graph.Basic

/-!
# Chains of relationships

The shortest chain of derivable relationships between two entities, by breadth-first search.  Among
chains of the same length the one stated first wins, because relationships are followed in order of
statement and an entity is reached once.
-/

namespace FactModel

namespace Path

/-- An entity that has been reached and the chain that leads to it. -/
abbrev Reached := Nat × List Nat

/-- Follows the edges of one entity, given as pairs of a label and a target, to targets that have
not been seen. -/
def follow (path : List Nat) : List (Nat × Nat) → List Reached × List Nat → List Reached × List Nat
  | [], acc => acc
  | (label, target) :: edges, (reached, seen) =>
    if target ∈ seen then follow path edges (reached, seen)
    else follow path edges (reached ++ [(target, path ++ [label])], target :: seen)

/-- The entities one step beyond a frontier, in order of discovery. -/
def step (edges : Nat → List (Nat × Nat)) (frontier : List Reached) (seen : List Nat) :
    List Reached × List Nat :=
  frontier.foldl (fun acc (node, path) => follow path (edges node) acc) ([], seen)

/-- Widens a frontier until the goal is reached or nothing new is.  The bound is on the length of
the chain. -/
def widen (edges : Nat → List (Nat × Nat)) (goal : Nat) :
    (bound : Nat) → List Reached → List Nat → Option (List Nat)
  | 0, _, _ => none
  | bound + 1, frontier, seen =>
    let (next, seen) := step edges frontier seen
    match next.find? (·.1 == goal) with
    | some (_, path) => some path
    | none => if next.isEmpty then none else widen edges goal bound next seen

/-- The shortest chain of labels between two of `count` nodes, the first one in order of edges. -/
def shortest? (count : Nat) (edges : Nat → List (Nat × Nat)) (source goal : Nat) :
    Option (List Nat) :=
  if source = goal then some [] else widen edges goal count [(source, [])] [source]

/-- Every node is joined to itself by the empty chain. -/
@[simp]
theorem shortest?_self (count : Nat) (edges : Nat → List (Nat × Nat)) (node : Nat) :
    shortest? count edges node node = some [] := by
  simp [shortest?]

end Path

/-- How many rows of one entity may be related to a row of another. -/
inductive RelatedCount where
  | zero
  | one
  | unbounded
  deriving DecidableEq, Repr

/-- Whether a bound admits at least so many rows. -/
def RelatedCount.admits : RelatedCount → Nat → Bool
  | .zero, count => count == 0
  | .one, count => count ≤ 1
  | .unbounded, _ => true

namespace Graph

/-- The derivable relationships of an entity, as pairs of their position and their target. -/
def derivableEdges (g : Graph) (entity : Nat) : List (Nat × Nat) :=
  ((g.outgoing entity).filter (·.derivable)).map fun r => (r.index, r.target)

/-- The shortest chain of derivable relationships from one entity to another. -/
def derivationPath? (g : Graph) (source target : Nat) : Option (List Nat) :=
  Path.shortest? g.entities.length g.derivableEdges source target

/-- Whether some chain of derivable relationships leads from one entity to another. -/
def reaches (g : Graph) (source target : Nat) : Bool :=
  (g.derivationPath? source target).isSome

/-- How many rows of a target one row of an entity may be related to: any number when the entity
has many of them or they reach the entity, one when the entity reaches them. -/
def relatedCount (g : Graph) (entity target : Nat) : RelatedCount :=
  if entity = target then .one
  else if (g.outgoing entity).any fun r =>
      r.target == target && r.cardinality == .oneToMany then .unbounded
  else if g.reaches target entity then .unbounded
  else if g.reaches entity target then .one
  else .zero

/-- Whether a predicate holds for an entity. -/
def predicateHolds (g : Graph) (entity : Nat) : Predicate → Bool
  | .related target count => (g.relatedCount entity target).admits count
  | .hasAttribute name => g.hasAttribute entity name

end Graph

end FactModel
