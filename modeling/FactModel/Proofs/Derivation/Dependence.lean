import FactModel.Graph.Build

/-!
# What derivation depends on

Of an explicit attribute only the name, the type and the position are looked at when attributes are
derived, and of a relationship everything but the line, which no more than a report mentions.
Positions tell attributes and relationships apart and are not otherwise looked at.  When the
attributes and the outgoing relationships of every entity are the same under other numbers, in the
same order, the same attributes are derived under the other numbers, and the same ones are shadowed.
-/

namespace FactModel

/-- What is looked at of an attribute that another entity may take over. -/
def Attribute.offered (a : Attribute) : String × SemanticType × Nat :=
  (a.name, a.type, a.index)

/-- A relationship wherever it was stated. -/
def Relationship.unlined (r : Relationship) : Relationship :=
  { r with line := 0 }

namespace Derivation

/-! ## Attributes -/

section Attributes

variable {names : Nat → String} {explicit explicit' : Nat → List Attribute}
  (same : ∀ i, (explicit' i).map Attribute.offered = (explicit i).map Attribute.offered)

include same

theorem candidates_eq_of_offered : candidates names explicit' = candidates names explicit := by
  have taken (l : List Attribute) (target : String) (r : Relationship) :
      ((l.filter (·.type ≠ .reference)).map fun a =>
        ({ name := s!"{target} {a.name}", entity := r.source, path := [r.index], source := a.index,
           type := a.type } : DerivedAttribute)) =
      ((l.map Attribute.offered).filter (·.2.1 ≠ .reference)).map fun o =>
        { name := s!"{target} {o.1}", entity := r.source, path := [r.index], source := o.2.2,
          type := o.2.1 } := by
    rw [List.filter_map, List.map_map]
    rfl
  funext state r
  rw [candidates, candidates, taken, taken, same]

theorem settle_eq_of_offered : settle names explicit' = settle names explicit := by
  have keys (l : List Attribute) :
      l.map (Name.key ·.name) = (l.map Attribute.offered).map (Name.key ·.1) := by
    rw [List.map_map]
    rfl
  funext state r
  rw [settle, settle, candidates_eq_of_offered same, keys, keys (explicit r.source), same]

theorem derive_eq_of_offered (count : Nat) (relationships : List Relationship) :
    derive count names explicit' relationships = derive count names explicit relationships := by
  rw [derive, derive, settle_eq_of_offered same]

end Attributes

/-! ## Lines -/

/-- An order of settling wherever its relationships were stated. -/
def Order.unlined (order : Order) : Order :=
  { order with settled := order.settled.map Relationship.unlined }

/-- A state of derivation wherever its relationships were stated. -/
def State.unlined (state : State) : State :=
  { state with shadowed := state.shadowed.map fun note => { note with line := 0 } }

section Lines

variable (relationships : List Relationship)

theorem derivableFrom_unlined (i : Nat) :
    derivableFrom (relationships.map Relationship.unlined) i =
      (derivableFrom relationships i).map Relationship.unlined :=
  List.filter_map

theorem visit_unlined (bound : Nat) (order : Order) (entity : Nat) :
    Order.visit (relationships.map Relationship.unlined) bound order.unlined entity =
      (Order.visit relationships bound order entity).unlined := by
  induction bound generalizing order entity with
  | zero => rfl
  | succ bound ih =>
    unfold Order.visit
    by_cases seen : entity ∈ order.visited
    · rw [if_pos seen, if_pos (show entity ∈ order.unlined.visited from seen)]
    · rw [if_neg seen, if_neg (show entity ∉ order.unlined.visited from seen),
        derivableFrom_unlined, List.foldl_map]
      refine @List.foldl_hom _ _ _ Order.unlined _ _ _
        { order with visited := entity :: order.visited } fun order r => ?_
      simp only [Relationship.unlined, ih]
      simp [Order.unlined, Relationship.unlined]

theorem settleOrder_unlined (count : Nat) :
    settleOrder count (relationships.map Relationship.unlined) =
      (settleOrder count relationships).map Relationship.unlined :=
  congrArg Order.settled (@List.foldl_hom _ _ _ Order.unlined _ _ _
    { visited := [], settled := [] } fun order i => visit_unlined relationships count order i)

variable (names : Nat → String) (explicit : Nat → List Attribute)

theorem settle_unlined (state : State) (r : Relationship) :
    settle names explicit state.unlined r.unlined = (settle names explicit state r).unlined := by
  simp only [settle, State.unlined, List.map_append, List.map_map]
  rfl

/-- The same attributes are derived wherever relationships were stated. -/
theorem derived_unlined (count : Nat) :
    (derive count names explicit (relationships.map Relationship.unlined)).derived =
      (derive count names explicit relationships).derived := by
  have settled : (settleOrder count (relationships.map Relationship.unlined)).foldl
        (settle names explicit) { derived := [], shadowed := [] } =
      ((settleOrder count relationships).foldl (settle names explicit)
        { derived := [], shadowed := [] }).unlined := by
    rw [settleOrder_unlined, List.foldl_map]
    exact @List.foldl_hom _ _ _ State.unlined _ _ _ { derived := [], shadowed := [] }
      fun state r => settle_unlined names explicit state r
  rw [derive, settled]
  rfl

end Lines

end Derivation

/-! ## Numbers -/

/-- New positions for attributes and relationships. -/
structure Renumbering where
  attributeAt : Nat → Nat
  relationshipAt : Nat → Nat

variable (n : Renumbering)

/-- An attribute at its new position. -/
def Attribute.renumber (a : Attribute) : Attribute :=
  { a with index := n.attributeAt a.index }

/-- A relationship at its new position. -/
def Relationship.renumber (r : Relationship) : Relationship :=
  { r with index := n.relationshipAt r.index }

/-- An entity with the new positions of its attributes. -/
def Entity.renumber (e : Entity) : Entity :=
  { e with attributeIds := e.attributeIds.map n.attributeAt }

/-- A derived attribute that leads along the new positions. -/
def DerivedAttribute.renumber (d : DerivedAttribute) : DerivedAttribute :=
  { d with path := d.path.map n.relationshipAt, source := n.attributeAt d.source }

namespace Derivation

/-- An order of settling under other numbers. -/
def Order.renumber (order : Order) : Order :=
  { order with settled := order.settled.map (·.renumber n) }

/-- A state of derivation under other numbers. -/
def State.renumber (state : State) : State :=
  { state with derived := state.derived.map (·.renumber n) }

section Order

variable {n} {relationships relationships' : List Relationship}
  (derivable : ∀ i,
    derivableFrom relationships' i = (derivableFrom relationships i).map (·.renumber n))

include derivable

theorem cycle?_renumber (count : Nat) :
    cycle? count relationships' = cycle? count relationships := by
  have next (i : Nat) : (derivableFrom relationships' i).map (·.target) =
      (derivableFrom relationships i).map (·.target) := by
    rw [derivable, List.map_map]
    rfl
  rw [cycle?, cycle?, funext next]

/-- Entities are visited in the same order, whatever the numbers of the relationships. -/
theorem visit_renumber (bound : Nat) (order : Order) (entity : Nat) :
    Order.visit relationships' bound (order.renumber n) entity =
      (Order.visit relationships bound order entity).renumber n := by
  induction bound generalizing order entity with
  | zero => rfl
  | succ bound ih =>
    unfold Order.visit
    by_cases seen : entity ∈ order.visited
    · rw [if_pos seen, if_pos (show entity ∈ (order.renumber n).visited from seen)]
    · rw [if_neg seen, if_neg (show entity ∉ (order.renumber n).visited from seen), derivable,
        List.foldl_map]
      refine @List.foldl_hom _ _ _ (Order.renumber n) _ _ _
        { order with visited := entity :: order.visited } fun order r => ?_
      simp only [Relationship.renumber, ih]
      simp [Order.renumber, Relationship.renumber]

theorem settleOrder_renumber (count : Nat) :
    settleOrder count relationships' = (settleOrder count relationships).map (·.renumber n) :=
  congrArg Order.settled (@List.foldl_hom _ _ _ (Order.renumber n) _ _ _
    { visited := [], settled := [] } fun order i => visit_renumber derivable count order i)

end Order

section Settling

variable {n} {names : Nat → String} {explicit explicit' : Nat → List Attribute}
  (same : ∀ i, explicit' i = (explicit i).map (·.renumber n))

theorem filter_renumber (derived : List DerivedAttribute) (i : Nat) :
    (derived.map (·.renumber n)).filter (·.entity == i) =
      (derived.filter (·.entity == i)).map (·.renumber n) :=
  List.filter_map

theorem selectFree_renumber (taken : List String) (ds : List DerivedAttribute) :
    selectFree taken (ds.map (·.renumber n)) =
      ((selectFree taken ds).1.map (·.renumber n), (selectFree taken ds).2.map (·.renumber n)) := by
  induction ds generalizing taken with
  | nil => rfl
  | cons d rest ih =>
    simp only [List.map_cons, selectFree, ih]
    change (if taken.contains (Name.key d.name) then _ else _) = _
    split <;> rfl

include same

theorem candidates_renumber (state : State) (r : Relationship) :
    candidates names explicit' (state.renumber n) (r.renumber n) =
      (candidates names explicit state r).map (·.renumber n) := by
  have plain : ((explicit r.target).map (·.renumber n)).filter (·.type ≠ .reference) =
      ((explicit r.target).filter (·.type ≠ .reference)).map (·.renumber n) := List.filter_map
  simp only [candidates, State.renumber, Relationship.renumber, same, filter_renumber]
  rw [plain, List.map_append]
  simp only [List.map_map]
  rfl

theorem settle_renumber (state : State) (r : Relationship) :
    settle names explicit' (state.renumber n) (r.renumber n) =
      (settle names explicit state r).renumber n := by
  have taken : ((explicit r.source).map (·.renumber n)).map (Name.key ·.name) =
      (explicit r.source).map (Name.key ·.name) := by
    rw [List.map_map]
    rfl
  have derivedTaken : ((state.derived.filter (·.entity == r.source)).map
        (·.renumber n)).map (Name.key ·.name) =
      (state.derived.filter (·.entity == r.source)).map (Name.key ·.name) := by
    rw [List.map_map]
    rfl
  simp only [settle, candidates_renumber same]
  simp only [Relationship.renumber, State.renumber, same, filter_renumber, taken, derivedTaken,
    selectFree_renumber, List.map_append, List.map_map]
  rfl

/-- The same is derived and the same is shadowed, whatever the numbers. -/
theorem derive_renumber {relationships relationships' : List Relationship}
    (derivable : ∀ i,
      derivableFrom relationships' i = (derivableFrom relationships i).map (·.renumber n))
    (count : Nat) :
    derive count names explicit' relationships' =
      (derive count names explicit relationships).renumber n := by
  have settled : (settleOrder count relationships').foldl (settle names explicit')
        { derived := [], shadowed := [] } =
      ((settleOrder count relationships).foldl (settle names explicit)
        { derived := [], shadowed := [] }).renumber n := by
    rw [settleOrder_renumber derivable, List.foldl_map]
    exact @List.foldl_hom _ _ _ (State.renumber n) _ _ _ { derived := [], shadowed := [] }
      fun state r => settle_renumber same state r
  rw [derive, settled]
  simp only [derive, State.renumber, filter_renumber, List.map_flatMap]

end Settling

/-! ## Both -/

section Both

variable {n} {relationships relationships' : List Relationship}
  (derivable : ∀ i, (derivableFrom relationships' i).map Relationship.unlined =
    ((derivableFrom relationships i).map Relationship.unlined).map (·.renumber n))

include derivable

/-- Whether there is a circle does not depend on lines and numbers. -/
theorem cycle?_congr (count : Nat) :
    cycle? count relationships' = cycle? count relationships := by
  have next (i : Nat) : (derivableFrom relationships' i).map (·.target) =
      (derivableFrom relationships i).map (·.target) := by
    have targets := congrArg (List.map Relationship.target) (derivable i)
    rw [List.map_map, List.map_map, List.map_map] at targets
    exact targets
  rw [cycle?, cycle?, funext next]

/-- The same attributes are derived under other numbers, when the attributes that may be taken over
are the same under these numbers, and so are the relationships but for their lines. -/
theorem derived_congr {names : Nat → String} {explicit explicit' : Nat → List Attribute}
    (same : ∀ i, (explicit' i).map Attribute.offered =
      ((explicit i).map (·.renumber n)).map Attribute.offered) (count : Nat) :
    (derive count names explicit' relationships').derived =
      (derive count names explicit relationships).derived.map (·.renumber n) := by
  have renumbered (i : Nat) : derivableFrom (relationships'.map Relationship.unlined) i =
      (derivableFrom (relationships.map Relationship.unlined) i).map (·.renumber n) := by
    rw [derivableFrom_unlined, derivableFrom_unlined, derivable]
  have moved (i : Nat) : (explicit i).map (·.renumber n) = (explicit i).map (·.renumber n) := rfl
  rw [← derived_unlined relationships', derive_eq_of_offered same,
    derive_renumber moved renumbered, ← derived_unlined relationships]
  rfl

end Both

end Derivation

end FactModel
