import FactModel.Artifact.Blocks
import FactModel.Graph.Lookup

/-!
# A graph in sentences

Every fact of a graph, derived ones included, as a sentence under the name of its entity.
-/

namespace FactModel.Sentences

/-- The sample of an attribute, when there is one and it is not empty. -/
def shownSample? (a : Attribute) : Option String :=
  a.sample.filter (· ≠ "")

/-- The sentences about an explicit attribute that is no reference. -/
def ofAttribute (name : String) (a : Attribute) : List String :=
  let sample := ((shownSample? a).map fun value => s!", for example {value}").getD ""
  let subject := Name.withCapitalArticle name
  [s!"{subject} has {Name.withArticle a.name} ({a.type.name}){sample}."] ++
    if a.identifying then [s!"{subject} is identified by its {a.name}."] else []

/-- The sentence about a relationship. -/
def ofRelationship (g : Graph) (name : String) (r : Relationship) : String :=
  let target := g.entityName r.target
  let subject := Name.withCapitalArticle name
  match r.cardinality with
  | .oneToMany => s!"{subject} has one or more {Name.plural target}."
  | .oneToOne => s!"{subject} has exactly one {target}."
  | .manyToOne => s!"{subject} has {Name.withArticle target}."

/-- The sentence about a derived attribute. -/
def ofDerived (g : Graph) (name : String) (d : DerivedAttribute) : String :=
  let route := String.intercalate " -> " (d.path.map g.targetName)
  s!"{Name.withCapitalArticle name} also has {d.name} ({d.type.name}), derived through {route}."

/-- The sentence about a subtype rule. -/
def ofSubtypeRule (g : Graph) (name : String) (rule : SubtypeRule) : String :=
  let base := g.entityName rule.base
  match rule.predicate with
  | none => s!"Every {name} is {Name.withArticle base}."
  | some predicate =>
    s!"{Name.withCapitalArticle base} counts as {Name.withArticle name} when it has " ++
      s!"{g.describePredicate predicate}."

/-- The sentences about an entity. -/
def ofEntity (g : Graph) (e : Entity) : List String :=
  let name := e.name
  [s!"## {name}"] ++
    (if e.description = "" then [] else [s!"{name}: {e.description}"]) ++
    (if e.declared then [] else [s!"{name} is referenced but never described."]) ++
    ((g.attributesOf e.index).filter (·.type != .reference)).flatMap (ofAttribute name) ++
    (g.outgoing e.index).map (ofRelationship g name) ++
    (g.derivedOf e.index).map (ofDerived g name) ++
    (g.constraintsOf e.index).map (fun c => s!"Rule: {g.rationale c}") ++
    (g.subtypeRulesOf e.index).map (ofSubtypeRule g name)

/-- Makes sure that whatever the sentences look up is there. -/
def check (g : Graph) : Except Missing Unit :=
  g.entities.forM fun e => do
    g.checkAttributes e
    (g.outgoing e.index).forM fun r => g.checkEntity r.target
    (g.derivedOf e.index).forM fun d => g.checkPath d.path
    (g.constraintsOf e.index).forM g.checkConstraint
    (g.subtypeRulesOf e.index).forM g.checkSubtypeRule

end Sentences

/-- A graph in sentences, entity by entity. -/
def Artifact.sentences (g : Graph) : String :=
  blocksIfAny (g.entities.map fun e => unlines (Sentences.ofEntity g e))

end FactModel
