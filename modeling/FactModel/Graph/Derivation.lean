import FactModel.Graph.Basic

/-!
# Derived attributes

An entity that has another one takes over its attributes, explicit and derived, each under the name
of the other entity followed by the attribute's own name.  Relationships are settled one by one in
an order in which all that starts at a target is settled before anything that leads to it; settling
a relationship adds to its source the attributes of its target whose names are still free there.
-/

/-! ## Cycles of a directed graph

Nodes are visited in ascending order and successors in the order given, so that the cycle found is
determined by the graph as listed. -/

namespace FactModel.Cycle

/-- Visits a node that lies neither on the path to it nor among the nodes known to lead to no
cycle.  Either a cycle is found, from its first node back to that node, or the node and all it
leads to join the cleared nodes.  The bound is on the length of the path. -/
def visit (next : Nat → List Nat) :
    (bound : Nat) → (path cleared : List Nat) → (node : Nat) → Except (List Nat) (List Nat)
  | 0, _, cleared, _ => .ok cleared
  | bound + 1, path, cleared, node =>
    let path := path ++ [node]
    ((next node).foldlM (fun cleared child =>
      if child ∈ path then .error (path.dropWhile (· ≠ child) ++ [child])
      else if child ∈ cleared then .ok cleared
      else visit next bound path cleared child) cleared).map (node :: ·)

/-- The first cycle among the nodes below `count`, its first node repeated at the end. -/
def first? (count : Nat) (next : Nat → List Nat) : Option (List Nat) :=
  let result := (List.range count).foldlM (fun cleared node =>
    if node ∈ cleared then .ok cleared else visit next count [] cleared node) []
  match result with
  | .error cycle => some cycle
  | .ok _ => none

end FactModel.Cycle

namespace FactModel.Derivation

/-- The relationships across which attributes are taken over, from one entity. -/
def derivableFrom (relationships : List Relationship) (entity : Nat) : List Relationship :=
  relationships.filter fun r => r.derivable && r.source == entity

/-- The first cycle among the derivable relationships. -/
def cycle? (count : Nat) (relationships : List Relationship) : Option (List Nat) :=
  Cycle.first? count fun entity => (derivableFrom relationships entity).map (·.target)

/-! ## The order of settling -/

/-- The entities visited so far and the relationships in the order in which they are settled. -/
structure Order where
  visited : List Nat
  settled : List Relationship

/-- Settles, in order, the relationships of an entity that has not been visited, each after those
of its target.  The bound is on the length of the chains that are followed. -/
def Order.visit (relationships : List Relationship) : (bound : Nat) → Order → Nat → Order
  | 0, order, _ => order
  | bound + 1, order, entity =>
    if entity ∈ order.visited then order
    else
      (derivableFrom relationships entity).foldl (fun order r =>
        let order := Order.visit relationships bound order r.target
        { order with settled := order.settled ++ [r] })
        { order with visited := entity :: order.visited }

/-- All derivable relationships in the order in which they are settled. -/
def settleOrder (count : Nat) (relationships : List Relationship) : List Relationship :=
  ((List.range count).foldl (Order.visit relationships count)
    { visited := [], settled := [] }).settled

/-! ## Settling -/

/-- The attributes derived so far, and what was found to be shadowed. -/
structure State where
  derived : List DerivedAttribute
  shadowed : List Diagnostic

/-- The attributes that the source of a relationship may take over from its target, under the
names that they get there. -/
def candidates (names : Nat → String) (explicit : Nat → List Attribute) (state : State)
    (r : Relationship) : List DerivedAttribute :=
  let target := names r.target
  (((explicit r.target).filter (·.type ≠ .reference)).map fun a =>
      { name := s!"{target} {a.name}", entity := r.source, path := [r.index], source := a.index,
        type := a.type }) ++
    ((state.derived.filter (·.entity == r.target)).map fun d =>
      { d with name := s!"{target} {d.name}", entity := r.source, path := r.index :: d.path })

/-- The candidates whose names are free and those whose names are taken, in order.  A candidate
that is admitted takes its name. -/
def selectFree (taken : List String) : List DerivedAttribute →
    List DerivedAttribute × List DerivedAttribute
  | [] => ([], [])
  | d :: rest =>
    let key := Name.key d.name
    if taken.contains key then
      let (admitted, rejected) := selectFree taken rest
      (admitted, d :: rejected)
    else
      let (admitted, rejected) := selectFree (key :: taken) rest
      (d :: admitted, rejected)

/-- Settles one relationship. -/
def settle (names : Nat → String) (explicit : Nat → List Attribute) (state : State)
    (r : Relationship) : State :=
  let taken := (explicit r.source).map (Name.key ·.name) ++
    (state.derived.filter (·.entity == r.source)).map (Name.key ·.name)
  let (admitted, rejected) := selectFree taken (candidates names explicit state r)
  { derived := state.derived ++ admitted
    shadowed := state.shadowed ++ rejected.map fun d =>
      { finding := .shadowed (names r.source) d.name, line := r.line } }

/-- The derived attributes of all entities, grouped by entity, and what was shadowed.  The
relationships are taken to have no cycle. -/
def derive (count : Nat) (names : Nat → String) (explicit : Nat → List Attribute)
    (relationships : List Relationship) : State :=
  let state := (settleOrder count relationships).foldl (settle names explicit)
    { derived := [], shadowed := [] }
  { state with
    derived := (List.range count).flatMap fun e => state.derived.filter (·.entity == e) }

/-- Each candidate is either admitted or rejected. -/
theorem length_selectFree (taken : List String) (ds : List DerivedAttribute) :
    (selectFree taken ds).1.length + (selectFree taken ds).2.length = ds.length := by
  induction ds generalizing taken with
  | nil => rfl
  | cons d rest ih =>
    by_cases clash : taken.contains (Name.key d.name) = true
    · have := ih taken
      simp only [selectFree, clash, if_true, List.length_cons]
      omega
    · have := ih (Name.key d.name :: taken)
      simp only [selectFree, clash, List.length_cons]
      simp only [Bool.false_eq_true, if_false, List.length_cons]
      omega

end FactModel.Derivation
