import FactModel.Graph.Derivation
import FactModel.Graph.Draft

/-!
# Building the graph

With all attributes known, attributes are derived, rules are checked against explicit and derived
attributes, and subtypes become standing rules.
-/

namespace FactModel

namespace Draft

/-- Derives attributes, and rejects the draft when entities have each other in a circle. -/
def derive (d : Draft) : Except Rejection (List DerivedAttribute × Draft) :=
  match Derivation.cycle? d.entities.length d.relationships with
  | some cycle =>
    .error { error := .circular (cycle.map d.entityName), diagnostics := d.diagnostics }
  | none =>
    let state := Derivation.derive d.entities.length d.entityName d.attributesOf d.relationships
    .ok (state.derived, { d with diagnostics := d.diagnostics ++ state.shadowed })

/-- Whether a relationship links an entity to the rows of a target that are counted for it. -/
def links (r : Relationship) (entity target : Nat) : Bool :=
  (r.source == target && r.target == entity && r.derivable) ||
    (r.source == entity && r.target == target && r.cardinality == .oneToMany)

/-- Whether a date is demanded of an attribute of another type. -/
def isMismatch (rule : AttributeRule) (type : SemanticType) : Bool :=
  rule == .inPast && type != .date

/-- Checks a rule on an attribute.  An explicit attribute is preferred to a derived one, and a rule
that an explicit attribute is never missing makes it required. -/
def checkAttributeRule (derived : List DerivedAttribute) (d : Draft) (entity line : Nat)
    (rule : AttributeRule) (name : String) : Except Rejection (Constraint × Draft) :=
  let explicit? := d.attribute? entity name
  let derived? := derived.find? fun a => a.entity == entity && Name.key a.name == Name.key name
  let found? := (explicit?.map fun a => (a.name, a.type)).or
    (derived?.map fun a => (a.name, a.type))
  match found? with
  | none =>
    .error
      { error := .unknownAttribute (d.entityName entity) name line
        diagnostics := d.diagnostics }
  | some (attr, type) =>
    let d := match rule, explicit? with
      | .notNull, some a => d.setAttribute { a with required := true }
      | _, _ => d
    let d :=
      if isMismatch rule type then d.warn line (.notADate (d.entityName entity) attr type) else d
    .ok ({ entity, demand := .onAttribute rule attr explicit?.isNone, line }, d)

/-- Checks a rule on a count: the first relationship that links the two entities backs it. -/
def checkCountRule (d : Draft) (entity line target count : Nat) :
    Except Rejection (Constraint × Draft) :=
  match d.relationships.find? (links · entity target) with
  | none =>
    .error
      { error := .unlinkedCount (d.entityName entity) count (d.entityName target) line
        diagnostics := d.diagnostics }
  | some r => .ok ({ entity, demand := .minCount target count r.index, line }, d)

/-- Checks rules one after the other. -/
def checkRules (derived : List DerivedAttribute) (d : Draft) :
    List PendingRule → Except Rejection (List Constraint × Draft)
  | [] => .ok ([], d)
  | rule :: rules => do
    let (constraint, d) ← match rule.demand with
      | .onAttribute demand attr =>
        d.checkAttributeRule derived rule.entity rule.line demand attr
      | .minCount target count => d.checkCountRule rule.entity rule.line target count
    let (constraints, d) ← checkRules derived d rules
    return (constraint :: constraints, d)

/-- Leaves out the entities declared subtypes of themselves, and reports them. -/
def checkSubtypes (d : Draft) : List SubtypeRule × Draft :=
  (d.subtypes.filter fun r => r.subtype != r.base,
    (d.subtypes.filter fun r => r.subtype == r.base).foldl
      (fun d r => d.warn r.line (.ownSubtype (d.entityName r.subtype))) d)

end Draft

/-- The graph of a document. -/
def Graph.ofDocument (doc : Document) : Except Rejection Graph := do
  let d ← Draft.ofDocument doc
  let (derived, d) ← d.derive
  let (constraints, d) ← d.checkRules derived d.rules
  let (subtypeRules, d) := d.checkSubtypes
  return {
    entities := d.entities
    attributes := d.attributes
    derived
    relationships := d.relationships
    constraints
    subtypeRules
    warnings := d.diagnostics
    unparsed := doc.unparsed }

/-- Why a model text has no graph. -/
inductive CompileFailure where
  /-- The text is rejected. -/
  | rejected (rejection : Rejection)
  /-- A count in digits denotes no number. -/
  | count (error : CountError)
  deriving DecidableEq, Repr

/-- The failure that an error in reading amounts to. -/
def CompileFailure.ofReadError : ReadError → CompileFailure
  | .orphanBullet line => .rejected { error := .orphanBullet line, diagnostics := [] }
  | .count error => .count error

/-- The wording of a failure. -/
def CompileFailure.message : CompileFailure → String
  | .rejected rejection => rejection.error.message
  | .count error => error.message

/-- Compiles a model text to its graph. -/
def compile (text : String) : Except CompileFailure Graph := do
  let doc ← (Document.parse text).mapError .ofReadError
  (Graph.ofDocument doc).mapError .rejected

end FactModel
