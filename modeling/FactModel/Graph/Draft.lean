import FactModel.Document.Basic
import FactModel.Graph.Basic

/-!
# Drafts of a graph

A graph is built from the statements of a document in their order.  Declarations come first, then
facts; rules and subtypes are kept aside until all attributes are known.
-/

namespace FactModel

/-- Why a model text is rejected. -/
inductive CompileError where
  /-- A bullet stands above the first header. -/
  | orphanBullet (line : Nat)
  /-- An entity is declared twice with different descriptions. -/
  | conflictingDescription (entity : String) (firstLine line : Nat)
  /-- A rule names an attribute that its entity does not have. -/
  | unknownAttribute (entity attr : String) (line : Nat)
  /-- A rule counts rows of an entity that no relationship links. -/
  | unlinkedCount (entity : String) (count : Nat) (target : String) (line : Nat)
  /-- Entities have each other in a circle. -/
  | circular (cycle : List String)
  deriving DecidableEq, Repr

namespace CompileError

/-- The line an error is reported for, when it has one. -/
def line? : CompileError → Option Nat
  | .orphanBullet line | .conflictingDescription _ _ line | .unknownAttribute _ _ line
  | .unlinkedCount _ _ _ line => some line
  | .circular _ => none

/-- The wording of an error without its line. -/
def text : CompileError → String
  | .orphanBullet _ => "bullet has no owning entity header above it"
  | .conflictingDescription entity firstLine _ =>
    s!"'{entity}' is declared again with a different description " ++
      s!"(first declared on line {firstLine})"
  | .unknownAttribute entity attr _ =>
    s!"Constraint on '{entity}' references unknown attribute '{attr}'"
  | .unlinkedCount entity count target _ =>
    s!"'{entity}' must have at least {count} '{target}', but no relationship links them"
  | .circular cycle => "Circular 'has a' relationships: " ++ String.intercalate " -> " cycle

/-- The wording of an error. -/
def message (e : CompileError) : String :=
  ((e.line?.map fun n => s!"line {n}: ").getD "") ++ e.text

end CompileError

/-- A rejection together with everything found before it. -/
structure Rejection where
  error : CompileError
  diagnostics : List Diagnostic
  deriving DecidableEq, Repr

/-- A rule whose names are resolved to entities but not yet to attributes or relationships. -/
inductive PendingDemand where
  | onAttribute (rule : AttributeRule) (attr : String)
  | minCount (target count : Nat)
  deriving DecidableEq, Repr

/-- A rule that waits until all attributes are known. -/
structure PendingRule where
  entity : Nat
  demand : PendingDemand
  line : Nat
  deriving DecidableEq, Repr

/-- A graph under construction. -/
structure Draft where
  entities : List Entity
  attributes : List Attribute
  relationships : List Relationship
  rules : List PendingRule
  subtypes : List SubtypeRule
  diagnostics : List Diagnostic
  deriving DecidableEq, Repr

namespace Draft

/-- The draft in which only the diagnostics of a document are known. -/
def empty (diagnostics : List Diagnostic) : Draft :=
  { entities := [], attributes := [], relationships := [], rules := [], subtypes := [],
    diagnostics }

/-- Records a finding. -/
def warn (d : Draft) (line : Nat) (finding : Finding) : Draft :=
  { d with diagnostics := d.diagnostics ++ [{ finding, line }] }

/-- The entity that a name spells. -/
def entity? (d : Draft) (name : String) : Option Entity :=
  d.entities.find? (Name.key ·.name == Name.key name)

/-- The name of the entity at a position. -/
def entityName (d : Draft) (entity : Nat) : String :=
  ((d.entities[entity]?).map (·.name)).getD ""

/-- The explicit attributes of an entity, in order of statement. -/
def attributesOf (d : Draft) (entity : Nat) : List Attribute :=
  match d.entities[entity]? with
  | some e => e.attributeIds.filterMap (d.attributes[·]?)
  | none => []

/-- The explicit attribute of an entity that a name spells. -/
def attribute? (d : Draft) (entity : Nat) (name : String) : Option Attribute :=
  (d.attributesOf entity).find? (Name.key ·.name == Name.key name)

/-- Puts a changed attribute in its place. -/
def setAttribute (d : Draft) (a : Attribute) : Draft :=
  { d with attributes := d.attributes.set a.index a }

/-! ## Declarations -/

/-- Adds an entity. -/
def addEntity (d : Draft) (name description : String) (declared : Bool) (line : Nat) : Draft :=
  { d with
    entities := d.entities ++
      [{ index := d.entities.length, name, description, attributeIds := [], declared, line }] }

/-- Adds a declared entity, or merges the declaration with an earlier one of the same name.  Two
descriptions agree when they differ in blanks around them at most. -/
def declare (d : Draft) (s : Declaration) : Except Rejection Draft :=
  match d.entity? s.name with
  | none => .ok (d.addEntity s.name s.description true s.line)
  | some existing =>
    if existing.description ≠ "" ∧ s.description ≠ "" ∧
        Text.trim existing.description.toList ≠ Text.trim s.description.toList then
      .error
        { error := .conflictingDescription s.name existing.line s.line
          diagnostics := d.diagnostics }
    else
      let merged :=
        if existing.description = "" then { existing with description := s.description }
        else existing
      .ok ({ d with entities := d.entities.set existing.index merged }.warn s.line
        (.declaredAgain s.name))

/-- The position of an entity.  An entity that has not been met before is added without a
declaration. -/
def resolve (d : Draft) (line : Nat) (name : String) : Nat × Draft :=
  match d.entity? name with
  | some e => (e.index, d)
  | none => (d.entities.length, (d.addEntity name "" false line).warn line (.undeclared name))

/-! ## Attributes -/

/-- Adds an attribute to an entity. -/
def addAttribute (d : Draft) (a : Attribute) : Draft :=
  let a := { a with index := d.attributes.length }
  { d with
    attributes := d.attributes ++ [a]
    entities := d.entities.modify a.entity fun e =>
      { e with attributeIds := e.attributeIds ++ [a.index] } }

/-- The type of a stated attribute and whether it was declared; an unknown word is reported and
the type guessed from the name. -/
def typeOf (d : Draft) (line : Nat) (name : String) (declaredType : Option String) :
    SemanticType × Bool × Draft :=
  let guess := SemanticType.ofAttributeName name
  match declaredType with
  | none => (guess, false, d)
  | some word =>
    if word = "" then (guess, false, d)
    else
      match SemanticType.ofDeclaration? word with
      | some type => (type, true, d)
      | none => (guess, false, d.warn line (.unknownType name word))

/-- The first example given, empty ones left aside. -/
def firstSample (old new : Option String) : Option String :=
  match old with
  | some s => if s = "" then new else some s
  | none => new

/-- Attaches an attribute.  An entity keeps its first identifier; a repeated attribute is reported
unless the repetition makes it the identifier, and adds what the first statement left open. -/
def attachAttribute (d : Draft) (line entity : Nat) (name : String)
    (declaredType sample : Option String) (identifying : Bool) : Draft :=
  let (type, typeDeclared, d) := d.typeOf line name declaredType
  let owner := d.entityName entity
  let current := (d.attributesOf entity).find? (·.identifying)
  let clash := if identifying then
    current.filter (Name.key ·.name != Name.key name) else none
  let d := match clash with
    | some first => d.warn line (.secondIdentifier owner first.name name)
    | none => d
  let identifying := identifying && clash.isNone
  match d.attribute? entity name with
  | none =>
    d.addAttribute
      { index := 0, name, entity, type, typeDeclared, required := false, identifying, sample,
        references := none, line }
  | some existing =>
    let d :=
      if existing.references.isSome || !identifying then
        d.warn line (.attributeAgain owner existing.name name)
      else d
    if existing.references.isSome then d
    else
      d.setAttribute
        { existing with
          identifying := existing.identifying || identifying
          sample := firstSample existing.sample sample
          type := if typeDeclared then type else existing.type
          typeDeclared := existing.typeDeclared || typeDeclared }

/-! ## Relationships -/

/-- Attaches a relationship.  Between two entities there is at most one relationship to one and one
to many.  A relationship to one also makes the target a reference attribute of the source, unless
the source already has an attribute of that name. -/
def attachRelationship (d : Draft) (line source target : Nat) (cardinality : Cardinality) : Draft :=
  let again := d.relationships.any fun r =>
    r.source == source && r.target == target && r.derivable == cardinality.isSingle
  let sourceName := d.entityName source
  let targetName := d.entityName target
  if again then d.warn line (.relatedAgain sourceName targetName)
  else
    let d := { d with
      relationships := d.relationships ++
        [{ index := d.relationships.length, source, target, cardinality, line }] }
    if cardinality.isSingle then
      if (d.attribute? source targetName).isSome then
        d.warn line (.referenceTaken sourceName targetName)
      else
        d.addAttribute
          { index := 0, name := targetName, entity := source, type := .reference,
            typeDeclared := false, required := false, identifying := false, sample := none,
            references := some target, line }
    else d

/-! ## Facts -/

/-- Adds a rule to those set aside. -/
def setAside (d : Draft) (line entity : Nat) (demand : PendingDemand) : Draft :=
  { d with rules := d.rules ++ [{ entity, demand, line }] }

/-- Sets a rule aside, its names resolved to entities. -/
def attachRule (d : Draft) (line entity : Nat) : Rule → Draft
  | .notNull attr => d.setAside line entity (.onAttribute .notNull attr)
  | .inPast attr => d.setAside line entity (.onAttribute .inPast attr)
  | .like attr pattern => d.setAside line entity (.onAttribute (.like pattern) attr)
  | .minCount target count =>
    let (target, d) := d.resolve line target
    d.setAside line entity (.minCount target count)

/-- The predicate of a condition, the entity it names resolved. -/
def predicateOf (d : Draft) (line : Nat) : Option Condition → Option Predicate × Draft
  | none => (none, d)
  | some (.hasAttribute name) => (some (.hasAttribute name), d)
  | some (.related target count) =>
    let (target, d) := d.resolve line target
    (some (.related target count), d)

/-- Attaches a fact. -/
def attach (d : Draft) (f : Fact) : Draft :=
  let (entity, d) := d.resolve f.line f.entity
  match f.assertion with
  | .hasAttribute name declaredType sample identifying =>
    d.attachAttribute f.line entity name declaredType sample identifying
  | .relatedTo target cardinality =>
    let (target, d) := d.resolve f.line target
    d.attachRelationship f.line entity target cardinality
  | .obeys rule => d.attachRule f.line entity rule
  | .isA base condition =>
    let (base, d) := d.resolve f.line base
    let (predicate, d) := d.predicateOf f.line condition
    { d with subtypes := d.subtypes ++ [{ subtype := entity, base, predicate, line := f.line }] }

/-- The declarations among statements. -/
def declarations (statements : List Statement) : List Declaration :=
  statements.filterMap fun
    | .declaration s => some s
    | .fact _ => none

/-- The facts among statements. -/
def facts (statements : List Statement) : List Fact :=
  statements.filterMap fun
    | .declaration _ => none
    | .fact f => some f

/-- The draft of a document: all declarations, then all facts. -/
def ofDocument (doc : Document) : Except Rejection Draft := do
  let d ← (declarations doc.statements).foldlM declare (empty doc.diagnostics)
  return (facts doc.statements).foldl attach d

end Draft

end FactModel
