import FactModel.Artifact.Run
import FactModel.Graph.Build
import FactModel.Issue

/-!
# The log of compiling

What is logged while a model text is read, its graph is built and its schema is validated.
-/

namespace FactModel

/-- The log line of an outcome, if it has one. -/
def Outcome.logLine? (number : Nat) : Outcome → Option LogLine
  | .unrecognized _ text =>
    some { level := .warning, source := .reader
           message := s!"line {number}: unrecognized fact ignored: {text}" }
  | .unbulleted _ text =>
    some { level := .warning, source := .reader
           message := s!"line {number}: unbulleted fact ignored: {text}" }
  | .ignored =>
    some { level := .debug, source := .reader, message := s!"line {number}: prose ignored" }
  | _ => none

/-- The log line of a document that was read. -/
def Document.logLine (doc : Document) : LogLine :=
  { level := .info, source := .reader
    message := s!"Parsed {doc.statements.length} statements " ++
      s!"({doc.entityNames.length} entities, {doc.unparsed.length} unparsed bullets)" }

/-- The log lines of reading a model text. -/
def Document.readLog (text : String) : List LogLine :=
  ((Trace.ofText text).outcomes.filterMap fun (number, outcome) => outcome.logLine? number) ++
    match Document.parse text with
    | .ok doc => [doc.logLine]
    | .error _ => []

/-- The log line of a diagnostic. -/
def Diagnostic.logLine (d : Diagnostic) : LogLine :=
  { level := .warning, source := .builder, message := d.report }

/-- The log line of a graph that was built. -/
def Graph.logLine (g : Graph) : LogLine :=
  { level := .info, source := .builder
    message := s!"Knowledge graph built: {g.entities.length} entities, " ++
      s!"{g.attributes.length} attributes, {g.derived.length} derived attributes, " ++
      s!"{g.relationships.length} relationships, {g.constraints.length} constraints, " ++
      s!"{g.subtypeRules.length} subtype rules, {g.warnings.length} warnings" }

/-- The log lines of a rejection: only a circle of entities has one. -/
def CompileError.log (e : CompileError) : List LogLine :=
  match e with
  | .circular _ =>
    [{ level := .error, source := .builder, message := s!"Derivation failed: {e.message}" }]
  | _ => []

/-- The log lines of building the graph of a document. -/
def Document.buildLog (doc : Document) : List LogLine :=
  let first : LogLine :=
    { level := .info, source := .builder
      message := s!"Building knowledge graph from {doc.statements.length} statements" }
  let later (ds : List Diagnostic) := (ds.drop doc.diagnostics.length).map Diagnostic.logLine
  first ::
    match Graph.ofDocument doc with
    | .ok g => later g.warnings ++ [g.logLine]
    | .error r => later r.diagnostics ++ r.error.log

/-- The log lines of compiling a model text. -/
def compileLog (text : String) : List LogLine :=
  Document.readLog text ++
    match Document.parse text with
    | .ok doc => doc.buildLog
    | .error _ => []

/-- The log lines of validating the schema of a graph. -/
def Issue.validationLog (g : Graph) : List LogLine :=
  let s := Schema.ofGraph g
  let found := match Issue.all g s with
    | .ok issues => issues.length
    | .error _ => 0
  Registry.mappingLog g ++ Generator.viewsLog g s ++
    if found = 0 then []
    else
      [{ level := .warning, source := .validation
         message := s!"Schema validation found {found} issues" }]

end FactModel
