import FactModel.Artifact.Blocks
import FactModel.Artifact.Failure
import FactModel.Json.Writer
import FactModel.Query.Build
import FactModel.View.Layout

/-!
# Questions with their answers

For every view some questions in words, each with the query that answers it.
-/

namespace FactModel

/-- A question and what it asks for. -/
structure Question where
  words : String
  intent : Intent
  deriving DecidableEq, Repr

namespace Question

/-- The sample of the attribute that a view column shows. -/
def sampleOf? (g : Graph) (v : View) (c : ViewColumn) : Option String :=
  if c.derived then
    ((g.derivedOf v.entity).find? (·.name == c.attr)).bind fun d =>
      (g.attributes[d.source]?).bind (·.sample)
  else (g.attribute? v.entity c.attr).bind (·.sample)

/-- The question for an extreme value of a column. -/
def extreme (shape : Shape) (adjective name attr : String) : Question :=
  { words := s!"What is the {adjective} {attr} of any {name}?"
    intent := { Intent.plain shape name with attr := some attr } }

/-- The questions for extreme values of a column: both ends for dates, the upper for numbers. -/
def extremes (name : String) (c : ViewColumn) : List Question :=
  match c.type with
  | .date => [extreme .max "latest" name c.attr, extreme .min "earliest" name c.attr]
  | .number => [extreme .max "highest" name c.attr]
  | _ => []

/-- The question for the value of a column in the row of a known identifier. -/
def lookup (name : String) (identifier : Attribute) (value : String) (c : ViewColumn) : Question :=
  { words := s!"What is the {c.attr} of the {name} with {identifier.name} {value}?"
    intent := { Intent.plain .lookup name with attr := some c.attr, keyValue := some value } }

/-- The question for the rows with a known value in a column. -/
def filter (name : String) (c : ViewColumn) (value : String) : Question :=
  { words := s!"Which {Name.plural name} have {c.attr} {value}?"
    intent := { Intent.plain .filter name with
      filterAttr := some c.attr, filterValue := some value } }

/-- The questions about a column. -/
def ofColumn (g : Graph) (v : View) (name : String) (c : ViewColumn) : List Question :=
  if v.keyColumn = some c.name ∨ c.type = .reference then []
  else
    let lookups := match g.identifier? v.entity with
      | some a => (a.sample.map fun value => lookup name a value c).toList
      | none => []
    extremes name c ++ lookups ++ ((sampleOf? g v c).map (filter name c)).toList

/-- The questions about an entity, over its view. -/
def ofView (g : Graph) (v : View) : List Question :=
  let name := g.entityName v.entity
  { words := s!"How many {Name.plural name} are there?", intent := Intent.plain .count name } ::
    v.columns.flatMap (ofColumn g v name)

/-- The line of a question with its query. -/
def line (d : Dialect) (v : View) (q : Question) : Except Ungrounded String := do
  let planned ← Planned.ofIntent q.intent v
  return Json.render (.object
    [("question", .text q.words), ("sql", .text (planned.query.render d)),
     ("shape", .text q.intent.shape.name), ("entity", .text q.intent.entity)])

/-- Makes sure that whatever the questions look up in a graph, views apart, is there. -/
def check (g : Graph) : Except Missing Unit :=
  g.entities.forM g.checkAttributes

end Question

/-- All questions with their queries, one to a line. -/
def Artifact.questions (g : Graph) (s : Schema) (d : Dialect) : Except ArtifactFailure String := do
  let views ← (View.all g s).mapError .lookup
  let lines ← (views.mapM fun v => (Question.ofView g v).mapM (Question.line d v)).mapError
    .ungrounded
  return linesIfAny lines.flatten

end FactModel
