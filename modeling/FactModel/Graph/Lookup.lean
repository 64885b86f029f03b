import FactModel.Graph.Basic

/-!
# Looking up

An entity is referred to by its name, in any case and spacing, or by its position.  Whatever is made
of a graph looks up elements by the positions that other elements store; what is looked up is checked
to be there before anything is written.
-/

namespace FactModel

/-- A reference to an entity. -/
inductive EntityRef where
  | name (name : String)
  | index (index : Int)
  deriving DecidableEq, Repr

/-- Why a reference finds no entity. -/
inductive LookupError where
  | unknownName (name : String)
  | noIndex (index : Int)
  deriving DecidableEq, Repr

/-- The wording of a failed look-up. -/
def LookupError.message : LookupError → String
  | .unknownName name => s!"Unknown entity '{name}'"
  | .noIndex index => s!"No entity with index {index}"

/-- The position of the entity referred to. -/
def Graph.resolve (g : Graph) : EntityRef → Except LookupError Nat
  | .name name =>
    match g.indexOf? name with
    | some index => .ok index
    | none => .error (.unknownName name)
  | .index index =>
    if 0 ≤ index ∧ index < g.entities.length then .ok index.toNat else .error (.noIndex index)

/-! ## What elements refer to -/

namespace Graph

/-- Makes sure that the attributes of an entity are there. -/
def checkAttributes (g : Graph) (e : Entity) : Except Missing Unit :=
  e.attributeIds.forM fun attr => (g.attributeAt attr).map fun _ => ()

/-- Makes sure that there is an entity at a position. -/
def checkEntity (g : Graph) (entity : Nat) : Except Missing Unit :=
  (g.entityAt entity).map fun _ => ()

/-- Makes sure that a relationship stands for an attribute, if it is a reference. -/
def checkReference (g : Graph) (a : Attribute) : Except Missing Unit :=
  let isMeant (r : Relationship) : Bool := some r.target == a.references && r.derivable
  if a.type = .reference ∧ !(g.outgoing a.entity).any isMeant then .error (.relationship a.index)
  else .ok ()

/-- Makes sure that the relationships of a path lead to entities. -/
def checkPath (g : Graph) : List Nat → Except Missing Unit
  | [] => .ok ()
  | relationship :: path => do
    let _ ← g.targetAt relationship
    g.checkPath path

/-- Makes sure that the entities of a constraint are there. -/
def checkConstraint (g : Graph) (c : Constraint) : Except Missing Unit := do
  g.checkEntity c.entity
  match c.demand with
  | .onAttribute .. => return ()
  | .minCount target _ _ => g.checkEntity target

/-- Makes sure that the entities of a subtype rule are there. -/
def checkSubtypeRule (g : Graph) (rule : SubtypeRule) : Except Missing Unit := do
  g.checkEntity rule.subtype
  g.checkEntity rule.base
  match rule.predicate with
  | some (.related target _) => g.checkEntity target
  | _ => return ()

end Graph

end FactModel
