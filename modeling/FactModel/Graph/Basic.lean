import FactModel.Diagnostic
import FactModel.Document.Basic
import FactModel.Name
import FactModel.Statement

/-!
# The graph of a model

Entities, attributes and relationships are kept in lists and refer to each other by position.  An
element carries its own position as `index`.
-/

namespace FactModel

/-- An entity of the model. -/
structure Entity where
  index : Nat
  name : String
  description : String
  /-- Positions of the entity's explicit attributes, in order of statement. -/
  attributeIds : List Nat
  /-- Whether the entity has a header; if not it is only referred to. -/
  declared : Bool
  line : Nat
  deriving DecidableEq, Repr

/-- An explicitly stated attribute. -/
structure Attribute where
  index : Nat
  name : String
  /-- Position of the entity that owns the attribute. -/
  entity : Nat
  type : SemanticType
  /-- Whether the type was declared rather than guessed from the name. -/
  typeDeclared : Bool
  /-- Whether a rule says that the attribute is never missing. -/
  required : Bool
  identifying : Bool
  sample : Option String
  /-- Position of the entity that a reference attribute points to. -/
  references : Option Nat
  line : Nat
  deriving DecidableEq, Repr

/-- Whether an attribute may be missing: it is neither required nor identifying. -/
def Attribute.nullable (a : Attribute) : Bool :=
  !(a.required || a.identifying)

/-- A directed relationship between entities. -/
structure Relationship where
  index : Nat
  source : Nat
  target : Nat
  cardinality : Cardinality
  line : Nat
  deriving DecidableEq, Repr

/-- Whether the source takes over the attributes of the target. -/
def Relationship.derivable (r : Relationship) : Bool :=
  r.cardinality.isSingle

/-- An attribute that an entity takes over across one or more relationships. -/
structure DerivedAttribute where
  name : String
  entity : Nat
  /-- Positions of the relationships to the source, nearest first. -/
  path : List Nat
  /-- Position of the explicit attribute at the end of the path. -/
  source : Nat
  type : SemanticType
  deriving DecidableEq, Repr

/-- What a rule on a single attribute demands. -/
inductive AttributeRule where
  | notNull
  | inPast
  | like (pattern : String)
  deriving DecidableEq, Repr

/-- What a constraint demands of an entity. -/
inductive Demand where
  /-- A rule on an attribute, explicit or derived, by its name. -/
  | onAttribute (rule : AttributeRule) (attr : String) (derived : Bool)
  /-- At least so many rows of the target, linked by the relationship. -/
  | minCount (target count relationship : Nat)
  deriving DecidableEq, Repr

/-- A rule over an entity's attributes or related rows. -/
structure Constraint where
  entity : Nat
  demand : Demand
  line : Nat
  deriving DecidableEq, Repr

/-- The condition of a subtype rule. -/
inductive Predicate where
  /-- An entity can be related to so many rows of the target. -/
  | related (target count : Nat)
  /-- An entity has the attribute, explicitly or derived. -/
  | hasAttribute (name : String)
  deriving DecidableEq, Repr

/-- One entity is a subtype of another, perhaps under a condition. -/
structure SubtypeRule where
  subtype : Nat
  base : Nat
  predicate : Option Predicate
  line : Nat
  deriving DecidableEq, Repr

/-- What is looked up and is not there. -/
inductive Missing where
  /-- A list has no element at a position. -/
  | element (position : Nat)
  /-- No relationship stands for the reference attribute at a position. -/
  | relationship (attr : Nat)
  /-- No table holds the rows of an entity. -/
  | table (entity : Nat)
  deriving DecidableEq, Repr

/-- The wording of a failed look-up. -/
def Missing.message : Missing → String
  | .element _ => "tuple index out of range"
  | .relationship _ => ""
  | .table entity => s!"No table for entity index {entity}"

/-- The graph of a model. -/
structure Graph where
  entities : List Entity
  attributes : List Attribute
  /-- Grouped by entity in order of position, each group in order of derivation. -/
  derived : List DerivedAttribute
  relationships : List Relationship
  constraints : List Constraint
  subtypeRules : List SubtypeRule
  /-- Everything found while the model was read and the graph was built. -/
  warnings : List Diagnostic
  unparsed : List Unparsed
  deriving DecidableEq, Repr

namespace Graph

/-! ## Looking up -/

/-- The entity at a position. -/
def entityAt (g : Graph) (entity : Nat) : Except Missing Entity :=
  match g.entities[entity]? with
  | some e => .ok e
  | none => .error (.element entity)

/-- The attribute at a position. -/
def attributeAt (g : Graph) (attr : Nat) : Except Missing Attribute :=
  match g.attributes[attr]? with
  | some a => .ok a
  | none => .error (.element attr)

/-- The entity that the relationship at a position leads to. -/
def targetAt (g : Graph) (relationship : Nat) : Except Missing Entity :=
  match g.relationships[relationship]? with
  | some r => g.entityAt r.target
  | none => .error (.element relationship)

theorem entityAt_eq_ok {g : Graph} {entity : Nat} (inside : entity < g.entities.length) :
    g.entityAt entity = .ok g.entities[entity] := by
  rw [entityAt, List.getElem?_eq_getElem inside]

theorem attributeAt_eq_ok {g : Graph} {attr : Nat} (inside : attr < g.attributes.length) :
    g.attributeAt attr = .ok g.attributes[attr] := by
  rw [attributeAt, List.getElem?_eq_getElem inside]

theorem lt_of_attributeAt_eq_ok {g : Graph} {attr : Nat} {a : Attribute}
    (found : g.attributeAt attr = .ok a) : attr < g.attributes.length := by
  unfold attributeAt at found
  split at found
  · next there => exact (List.getElem?_eq_some_iff.mp there).1
  · contradiction

/-- The name of the entity at a position. -/
def entityName (g : Graph) (entity : Nat) : String :=
  ((g.entities[entity]?).map (·.name)).getD ""

/-- The name of the target of the relationship at a position. -/
def targetName (g : Graph) (relationship : Nat) : String :=
  ((g.relationships[relationship]?).map fun r => g.entityName r.target).getD ""

/-- The explicit attributes of an entity, in order of statement. -/
def attributesOf (g : Graph) (entity : Nat) : List Attribute :=
  match g.entities[entity]? with
  | some e => e.attributeIds.filterMap (g.attributes[·]?)
  | none => []

/-- The derived attributes of an entity, in order of derivation. -/
def derivedOf (g : Graph) (entity : Nat) : List DerivedAttribute :=
  g.derived.filter (·.entity == entity)

/-- The relationships that start at an entity, in order of statement. -/
def outgoing (g : Graph) (entity : Nat) : List Relationship :=
  g.relationships.filter (·.source == entity)

/-- The relationships that end at an entity, in order of statement. -/
def incoming (g : Graph) (entity : Nat) : List Relationship :=
  g.relationships.filter (·.target == entity)

/-- The constraints on an entity. -/
def constraintsOf (g : Graph) (entity : Nat) : List Constraint :=
  g.constraints.filter (·.entity == entity)

/-- The subtype rules of an entity. -/
def subtypeRulesOf (g : Graph) (entity : Nat) : List SubtypeRule :=
  g.subtypeRules.filter (·.subtype == entity)

/-- The explicit attribute of an entity that a name spells. -/
def attribute? (g : Graph) (entity : Nat) (name : String) : Option Attribute :=
  (g.attributesOf entity).find? (Name.key ·.name == Name.key name)

/-- The derived attribute of an entity that a name spells. -/
def derivedAttribute? (g : Graph) (entity : Nat) (name : String) : Option DerivedAttribute :=
  (g.derivedOf entity).find? (Name.key ·.name == Name.key name)

/-- Whether an entity has an attribute of that name, explicit or derived. -/
def hasAttribute (g : Graph) (entity : Nat) (name : String) : Bool :=
  (g.attribute? entity name).isSome || (g.derivedAttribute? entity name).isSome

/-- The attribute that identifies an entity, if one does. -/
def identifier? (g : Graph) (entity : Nat) : Option Attribute :=
  (g.attributesOf entity).find? (·.identifying)

/-- The position of the entity that a name spells. -/
def indexOf? (g : Graph) (name : String) : Option Nat :=
  (g.entities.find? (Name.key ·.name == Name.key name)).map (·.index)

/-- A noun after a count: singular after one. -/
def countNoun (name : String) (count : Nat) : String :=
  if count = 1 then name else Name.plural name

/-- The reason for a constraint, as a sentence. -/
def rationale (g : Graph) (c : Constraint) : String :=
  let entity := g.entityName c.entity
  match c.demand with
  | .onAttribute .notNull attr _ => s!"Every {entity} must have {Name.withArticle attr}."
  | .onAttribute .inPast attr _ => s!"The {attr} of every {entity} must be in the past."
  | .onAttribute (.like pattern) attr _ =>
    s!"The {attr} of every {entity} must match '{pattern}'."
  | .minCount target count _ =>
    s!"Every {entity} must have at least {count} {countNoun (g.entityName target) count}."

/-- A predicate in words. -/
def describePredicate (g : Graph) : Predicate → String
  | .related target count =>
    if count = 1 then s!"at least one {g.entityName target}"
    else s!"at least {count} {Name.plural (g.entityName target)}"
  | .hasAttribute name => Name.withArticle name

end Graph

end FactModel
