import FactModel.Graph.Path

/-!
# Subtypes

An entity conforms to itself, to whatever the bases of its rules conform to, and to every subtype
whose base it conforms to and whose condition it meets.  The question is answered by searching
backwards from it; a question already open on the way is not asked again.
-/

namespace FactModel.Graph

/-- Whether an entity conforms to another, `opened` being the questions open on the way.  The bound
is on the number of questions that may be open. -/
def conforms (g : Graph) : (bound : Nat) → (opened : List (Nat × Nat)) → (entity other : Nat) → Bool
  | 0, _, entity, other => entity == other
  | bound + 1, opened, entity, other =>
    if entity = other then true
    else if (entity, other) ∈ opened then false
    else
      let opened := (entity, other) :: opened
      (g.subtypeRules.any fun r =>
          r.subtype == entity && conforms g bound opened r.base other) ||
        g.subtypeRules.any fun r =>
          match r.predicate with
          | none => false
          | some predicate =>
            r.subtype == other && conforms g bound opened entity r.base &&
              g.predicateHolds entity predicate

/-- Whether an entity classifies as another. -/
def isSubtype (g : Graph) (entity other : Nat) : Bool :=
  g.conforms (g.entities.length * g.entities.length + 1) [] entity other

/-- Every entity classifies as itself. -/
@[simp]
theorem isSubtype_self (g : Graph) (entity : Nat) : g.isSubtype entity entity = true := by
  simp [isSubtype, conforms]

/-- The rule at a place of the list; a negative place counts from the end. -/
def subtypeRuleAt? (g : Graph) (place : Int) : Option SubtypeRule :=
  let index := if place < 0 then place + g.subtypeRules.length else place
  if index < 0 then none else g.subtypeRules[index.toNat]?

/-- The bases declared for an entity, in order of the rules. -/
def supertypes (g : Graph) (entity : Nat) : List Entity :=
  (g.subtypeRulesOf entity).filterMap fun r => g.entities[r.base]?

end FactModel.Graph
