import FactModel.Artifact.Blocks
import FactModel.Artifact.Failure
import FactModel.View.Layout

/-!
# Checks

For every rule of a graph a query that counts the rows breaking it; the rule holds when it counts
none.  Rules on explicit attributes are checked on tables and rules on derived attributes on views.
-/

namespace FactModel

/-- A query that counts the rows breaking a rule. -/
inductive Check where
  /-- Rows in which a column is missing. -/
  | notNull (relation column : String)
  /-- Rows whose date is after today. -/
  | inPast (relation column : String)
  /-- Rows whose value is there and does not match a pattern. -/
  | like (relation column pattern : String)
  /-- Rows of the parent to which fewer than so many rows of the child refer. -/
  | minCount (parent parentKey child childKey : String) (count : Nat)
  /-- Values of a column that several rows have. -/
  | unique (table column : String)
  deriving DecidableEq, Repr

namespace Check

/-- The name of the kind of a check. -/
def kind : Check → String
  | .notNull .. => "not-null"
  | .inPast .. => "must-be-in-past"
  | .like .. => "pattern-like"
  | .minCount .. => "min-count"
  | .unique .. => "primary-key-unique"

/-- The lines of a check behind its first one. -/
def renderBody (d : Dialect) : Check → List String
  | .notNull relation column =>
    [s!"FROM {d.quote relation}", s!"WHERE {d.quote column} IS NULL;"]
  | .inPast relation column =>
    [s!"FROM {d.quote relation}", s!"WHERE {d.quote column} > {d.today};"]
  | .like relation column pattern =>
    let pattern := (Literal.text pattern.toList).render
    [s!"FROM {d.quote relation}",
     s!"WHERE {d.quote column} IS NOT NULL AND {d.quote column} NOT LIKE {pattern};"]
  | .minCount parent parentKey child childKey count =>
    [s!"FROM {d.quote parent} p",
     s!"WHERE (SELECT COUNT(*) FROM {d.quote child} c " ++
       s!"WHERE c.{d.quote childKey} = p.{d.quote parentKey}) < {count};"]
  | .unique table column =>
    let name := d.quote column
    ["FROM (",
     s!"    SELECT {name} FROM {d.quote table} GROUP BY {name} HAVING COUNT(*) > 1",
     ") duplicates;"]

/-- The text of a check. -/
def render (d : Dialect) (c : Check) : String :=
  Artifact.unlines ("SELECT COUNT(*) AS failures" :: c.renderBody d)

end Check

/-- A rule in words and what is done about it. -/
inductive CheckBlock where
  | checked (check : Check) (rule : String)
  /-- A subtype rule on a count whose entities no foreign key links. -/
  | untestable (target subtype rule : String)
  deriving DecidableEq, Repr

/-- The text of a block. -/
def CheckBlock.render (d : Dialect) : CheckBlock → String
  | .checked check rule => s!"-- {check.kind}: {rule}\n{check.render d}"
  | .untestable target subtype rule =>
    s!"-- min-count: {rule}\n-- not testable: no foreign key links {target} to {subtype}"

/-- What is noted while checks are made. -/
inductive CheckNote where
  /-- A view that was laid out for a rule leaves something out. -/
  | ofView (view : String) (note : ViewNote)
  /-- A subtype rule cannot be checked. -/
  | unlinked (target subtype : String)
  deriving DecidableEq, Repr

/-- The wording of a note. -/
def CheckNote.message : CheckNote → String
  | .ofView view note => s!"{view}: {note.message}"
  | .unlinked target subtype =>
    s!"No foreign key links '{target}' to '{subtype}'; subtype rule is not testable"

namespace Checks

/-- The check of one rule: what is noted on the way, and the block that comes of it, if any. -/
structure Step where
  notes : List CheckNote
  outcome : Except ArtifactFailure (Option CheckBlock)

/-- A check of a rule on the table and column, or view and column, that hold an attribute. -/
def onAttribute (rule : AttributeRule) (relation column : String) : Check :=
  match rule with
  | .notNull => .notNull relation column
  | .inPast => .inPast relation column
  | .like pattern => .like relation column pattern

/-- The table and column that hold an explicit attribute. -/
def storedAt (g : Graph) (s : Schema) (entity : Nat) (attr : String) :
    Except Missing (Option (String × String)) := do
  let t ← s.tableOf entity
  let column? := (g.attribute? entity attr).bind fun a => t.columnFor? a.index
  return column?.map fun c => (t.name, c.name)

/-- The view and column that show an attribute. -/
def shownAt (v : View) (attr : String) : Option (String × String) :=
  (v.column? attr).map fun c => (v.name, c.name)

/-- The check of a rule on a count, when a foreign key of another table refers to the entity. -/
def minCount? (s : Schema) (entity relationship count : Nat) :
    Except Missing (Option Check) :=
  match s.keyFor? relationship, s.holderOf? relationship with
  | some key, some child => do
    let parent ← s.tableOf entity
    return if key.refTable = parent.name then
      some (.minCount parent.name key.refColumn child.name key.column count) else none
  | _, _ => .ok none

/-- The block of a rule, or the failure that it has no column. -/
def attributeBlock (rule : AttributeRule) (words : String) :
    Option (String × String) → Except ArtifactFailure (Option CheckBlock)
  | some (relation, column) => .ok (some (.checked (onAttribute rule relation column) words))
  | none => .error (.noColumn words)

/-- Checks a constraint. -/
def ofConstraint (g : Graph) (s : Schema) (c : Constraint) : Step :=
  let words := g.rationale c
  match c.demand with
  | .minCount _ count relationship =>
    { notes := []
      outcome := do
        match ← (minCount? s c.entity relationship count).mapError .lookup with
        | some check => return some (.checked check words)
        | none => throw (.noForeignKey words) }
  | .onAttribute rule attr false =>
    { notes := []
      outcome := do
        attributeBlock rule words (← (storedAt g s c.entity attr).mapError .lookup) }
  | .onAttribute rule attr true =>
    match View.ofEntity g s c.entity with
    | .error missing => { notes := [], outcome := .error (.lookup missing) }
    | .ok v =>
      { notes := v.notes.map (.ofView v.name)
        outcome := attributeBlock rule words (shownAt v attr) }

/-- Whether rows of a target refer to an entity by a relationship. -/
def links (r : Relationship) (entity target : Nat) : Bool :=
  (r.derivable && r.source == target && r.target == entity) ||
    (r.cardinality == .oneToMany && r.source == entity && r.target == target)

/-- The first check of a count among those that the relationships of a graph give. -/
def firstCount? (s : Schema) (entity target count : Nat) :
    List Relationship → Except Missing (Option Check)
  | [] => .ok none
  | r :: rest =>
    if links r entity target then do
      match ← minCount? s entity r.index count with
      | some check => return some check
      | none => firstCount? s entity target count rest
    else firstCount? s entity target count rest

/-- Checks a subtype rule, if it is one on a count. -/
def ofSubtypeRule (g : Graph) (s : Schema) (rule : SubtypeRule) : Step :=
  match rule.predicate with
  | some (.related target count) =>
    let subtypeName := g.entityName rule.subtype
    let targetName := g.entityName target
    let words :=
      s!"Every {subtypeName} must have at least {count} {Graph.countNoun targetName count}."
    match firstCount? s rule.subtype target count g.relationships with
    | .error missing => { notes := [], outcome := .error (.lookup missing) }
    | .ok (some check) => { notes := [], outcome := .ok (some (.checked check words)) }
    | .ok none =>
      { notes := [.unlinked targetName subtypeName]
        outcome := .ok (some (.untestable targetName subtypeName words)) }
  | _ => { notes := [], outcome := .ok none }

/-- Checks that an identifier is unique. -/
def ofIdentifier (g : Graph) (s : Schema) (e : Entity) : Step :=
  { notes := []
    outcome :=
      match g.identifier? e.index with
      | none => .ok none
      | some a => do
        let t ← (s.tableOf e.index).mapError .lookup
        match t.primaryKey with
        | [] => throw .noPrimaryKey
        | key :: _ =>
          return some (.checked (.unique t.name key) s!"Every {e.name} has a unique {a.name}.") }

/-- The checks of all rules: constraints, subtype rules and identifiers. -/
def steps (g : Graph) (s : Schema) : List Step :=
  g.constraints.map (ofConstraint g s) ++ g.subtypeRules.map (ofSubtypeRule g s) ++
    g.entities.map (ofIdentifier g s)

/-- The blocks of steps, up to the first that fails. -/
def blocksOf : List Step → Except ArtifactFailure (List CheckBlock)
  | [] => .ok []
  | step :: rest => do
    let block ← step.outcome
    let blocks ← blocksOf rest
    return block.toList ++ blocks

/-- The notes of steps, up to and including the first that fails. -/
def notesOf : List Step → List CheckNote
  | [] => []
  | step :: rest =>
    match step.outcome with
    | .ok _ => step.notes ++ notesOf rest
    | .error _ => step.notes

/-- Makes sure that whatever the checks look up in a graph is there. -/
def check (g : Graph) : Except Missing Unit := do
  g.constraints.forM g.checkConstraint
  g.subtypeRules.forM g.checkSubtypeRule
  g.entities.forM g.checkAttributes

end Checks

/-- The checks of all rules of a graph. -/
def Artifact.checks (g : Graph) (s : Schema) (d : Dialect) : Except ArtifactFailure String := do
  let found ← Checks.blocksOf (Checks.steps g s)
  return blocksIfAny (found.map (·.render d))

end FactModel
