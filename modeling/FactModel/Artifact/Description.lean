import FactModel.Artifact.Blocks
import FactModel.Graph.Lookup

/-!
# A graph as model text

The canonical model text of a graph.  Declared entities are headers with their facts below; facts
about entities that are only referred to stand at the end with their subject spelled out.
-/

namespace FactModel

namespace Description

/-- A sample between double quotes, or single ones when it holds double quotes. -/
def quoteSample (value : String) : String :=
  if value.toList.contains '"' then s!"'{value}'" else s!"\"{value}\""

/-- The type of an attribute, given when it was declared or when the name alone would mean an
entity. -/
def typePart (g : Graph) (a : Attribute) : String :=
  if a.typeDeclared || (g.indexOf? a.name).isSome then s!" ({a.type.name})" else ""

/-- The sample of an attribute, given when there is one that is not empty. -/
def samplePart (a : Attribute) : String :=
  match a.sample with
  | some value => if value = "" then "" else s!", for example {quoteSample value}"
  | none => ""

/-- An attribute with its type and its sample. -/
def attributeObject (g : Graph) (a : Attribute) : String :=
  a.name ++ typePart g a ++ samplePart a

/-- The bullet of an attribute that is no reference. -/
def attributeBullet (g : Graph) (name : String) (a : Attribute) : String :=
  let object := attributeObject g a
  if a.identifying then s!"- {name} is identified by its {object}."
  else s!"- {name} has {Name.article a.name} {object}."

/-- The bullet of a relationship. -/
def relationshipBullet (name target : String) : Cardinality → String
  | .oneToMany => s!"- {name} has one or more **{Name.plural target}**."
  | .oneToOne => s!"- {name} has exactly one **{target}**."
  | .manyToOne => s!"- {name} has {Name.article target} **{target}**."

/-- The bullet of a constraint. -/
def constraintBullet (g : Graph) (c : Constraint) : String :=
  let name := g.entityName c.entity
  match c.demand with
  | .minCount target count _ =>
    s!"- {name} must have at least {count} **{Graph.countNoun (g.entityName target) count}**."
  | .onAttribute .inPast attr _ => s!"- {name} must have {Name.withArticle attr} in the past."
  | .onAttribute (.like pattern) attr _ =>
    s!"- {name} must have {Name.withArticle attr} like '{pattern}'."
  | .onAttribute .notNull attr _ => s!"- {name} must have {Name.withArticle attr}."

/-- The condition of a subtype rule. -/
def conditionPart (g : Graph) : Option Predicate → String
  | none => ""
  | some (.related target count) =>
    s!" with at least {count} {Graph.countNoun (g.entityName target) count}"
  | some (.hasAttribute attr) => s!" with {Name.withArticle attr}"

/-- The bullet of a subtype rule. -/
def subtypeBullet (g : Graph) (name : String) (rule : SubtypeRule) : String :=
  let base := g.entityName rule.base
  s!"- {name} is {Name.article base} **{base}**{conditionPart g rule.predicate}."

/-- The relationship that a reference attribute stands for. -/
def referred? (g : Graph) (a : Attribute) : Option Relationship :=
  (g.outgoing a.entity).find? fun r => some r.target == a.references && r.derivable

/-- The bullets of explicit attributes; a reference is told as its relationship. -/
def attributeBullets (g : Graph) (e : Entity) : List String :=
  (g.attributesOf e.index).map fun a =>
    match referred? g a with
    | some r => relationshipBullet e.name (g.entityName r.target) r.cardinality
    | none => attributeBullet g e.name a

/-- The relationships of an entity that its reference attributes tell. -/
def told (g : Graph) (e : Entity) : List Nat :=
  (g.attributesOf e.index).filterMap fun a => (referred? g a).map (·.index)

/-- The bullets of the relationships that no reference attribute tells. -/
def relationshipBullets (g : Graph) (e : Entity) : List String :=
  ((g.outgoing e.index).filter fun r => !(told g e).contains r.index).map fun r =>
    relationshipBullet e.name (g.entityName r.target) r.cardinality

/-- The facts about an entity as bullets. -/
def bullets (g : Graph) (e : Entity) : List String :=
  attributeBullets g e ++ relationshipBullets g e ++
    (g.constraintsOf e.index).map (constraintBullet g) ++
    (g.subtypeRulesOf e.index).map (subtypeBullet g e.name)

/-- The header of an entity. -/
def header (e : Entity) : String :=
  s!"**{e.name}**" ++ if e.description = "" then "" else s!": {e.description}"

/-- The header of a declared entity and its facts. -/
def block (g : Graph) (e : Entity) : List String :=
  header e :: bullets g e

/-- Adds lines to the last of some blocks. -/
def extendLast (more : List String) : List (List String) → List (List String)
  | [] => []
  | [last] => [last ++ more]
  | first :: rest => first :: extendLast more rest

/-- Makes sure that whatever a description looks up is there. -/
def check (g : Graph) : Except Missing Unit :=
  g.entities.forM fun e => do
    g.checkAttributes e
    (g.attributesOf e.index).forM g.checkReference
    (g.outgoing e.index).forM fun r => g.checkEntity r.target
    (g.constraintsOf e.index).forM g.checkConstraint
    (g.subtypeRulesOf e.index).forM g.checkSubtypeRule

end Description

/-- The canonical model text of a graph. -/
def Graph.describe (g : Graph) : String :=
  let declared := (g.entities.filter (·.declared)).map (Description.block g)
  let undeclared := (g.entities.filter (!·.declared)).flatMap (Description.bullets g)
  Artifact.blocksIfAny ((Description.extendLast undeclared declared).map Artifact.unlines)

end FactModel
