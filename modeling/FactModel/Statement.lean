/-!
# Statements

What a model text states: declarations of entities and facts about them.  A fact knows the line and
the text it was read from, the entity whose header it stands under, and the entity it is about.
-/

namespace FactModel

/-- How many targets one source is related to, and how many sources share a target. -/
inductive Cardinality where
  | oneToOne
  | manyToOne
  | oneToMany
  deriving DecidableEq, Repr

/-- Whether a source has a single target, so that the target's attributes are its own as well. -/
def Cardinality.isSingle : Cardinality → Bool
  | .oneToOne | .manyToOne => true
  | .oneToMany => false

/-- A rule about the attributes or the related rows of an entity. -/
inductive Rule where
  /-- The attribute is never missing. -/
  | notNull (attr : String)
  /-- The attribute is a date before today. -/
  | inPast (attr : String)
  /-- The attribute matches a pattern of `%` and `_`. -/
  | like (attr pattern : String)
  /-- At least so many rows of the target belong to each row of the entity. -/
  | minCount (target : String) (count : Nat)
  deriving DecidableEq, Repr

/-- The condition under which an entity counts as a subtype. -/
inductive Condition where
  /-- It is related to so many rows of the target. -/
  | related (target : String) (count : Nat)
  /-- It has the attribute. -/
  | hasAttribute (name : String)
  deriving DecidableEq, Repr

/-- What a fact says about its entity. -/
inductive Assertion where
  /-- It has an attribute, perhaps the one that identifies it. -/
  | hasAttribute (name : String) (declaredType sample : Option String) (identifying : Bool)
  /-- It is related to another entity. -/
  | relatedTo (target : String) (cardinality : Cardinality)
  /-- It obeys a rule. -/
  | obeys (rule : Rule)
  /-- It is a subtype of another entity, perhaps under a condition. -/
  | isA (base : String) (condition : Option Condition)
  deriving DecidableEq, Repr

/-- A fact about an entity. -/
structure Fact where
  /-- Line of the model text, counted from one. -/
  line : Nat
  /-- The fact as written, without its marks. -/
  text : String
  /-- The entity whose header the fact stands under. -/
  owner : String
  /-- The entity that the fact is about. -/
  entity : String
  assertion : Assertion
  deriving DecidableEq, Repr

/-- The header of an entity. -/
structure Declaration where
  line : Nat
  text : String
  name : String
  description : String
  deriving DecidableEq, Repr

/-- A statement of a model text. -/
inductive Statement where
  | declaration (declaration : Declaration)
  | fact (fact : Fact)
  deriving DecidableEq, Repr

/-- The line a statement stands on. -/
def Statement.line : Statement → Nat
  | .declaration d => d.line
  | .fact f => f.line

end FactModel
