import FactModel.Artifact.Checks
import FactModel.Artifact.Description
import FactModel.Artifact.Matrix
import FactModel.Artifact.Questions
import FactModel.Artifact.Rollups
import FactModel.Artifact.Sentences
import FactModel.Artifact.Statements
import FactModel.Log

/-!
# Kinds of artifacts and who makes them

A registry knows dialects by name and generators by the kind of artifact, some of them for one
dialect only.  An artifact is requested by its kind and a dialect.
-/

namespace FactModel

/-- What makes one kind of artifact. -/
structure Generator where
  make : Graph → Schema → Dialect → Except ArtifactFailure String
  /-- The log lines written on the way. -/
  log : Graph → Schema → List LogLine

namespace Generator

/-- A generator that writes no log lines. -/
def silent (make : Graph → Schema → Dialect → Except ArtifactFailure String) : Generator :=
  { make, log := fun _ _ => [] }

/-- A generator that makes sure first that whatever it looks up in a graph is there. -/
def after (check : Graph → Except Missing Unit) (generator : Generator) : Generator :=
  { generator with
    make := fun g s d => do
      (check g).mapError .lookup
      generator.make g s d }

/-- The log lines of a view. -/
def viewLog (v : View) : List LogLine :=
  v.notes.map fun note =>
    { level := .warning, source := .views, message := s!"{v.name}: {note.message}" }

/-- The log lines of laying out all views. -/
def viewsLog (g : Graph) (s : Schema) : List LogLine :=
  match View.all g s with
  | .ok views => views.flatMap viewLog
  | .error _ => []

/-- A list of texts as it is shown in messages. -/
def showList (texts : List String) : String :=
  "[" ++ String.intercalate ", " (texts.map Text.quote) ++ "]"

/-- The log line on the order of tables. -/
def orderLog (s : Schema) : List LogLine :=
  match s.creationOrder with
  | .ok ordered =>
    [{ level := .debug, source := .tables
       message := s!"DDL order: {showList (ordered.map (·.name))}" }]
  | .error _ => []

/-- The log lines of making checks. -/
def checksLog (g : Graph) (s : Schema) : List LogLine :=
  let steps := Checks.steps g s
  let notes := (Checks.notesOf steps).map fun note =>
    match note with
    | .ofView .. => { level := .warning, source := .views, message := note.message : LogLine }
    | .unlinked .. => { level := .warning, source := .checks, message := note.message }
  match Checks.blocksOf steps with
  | .ok found =>
    notes ++ [{ level := .debug, source := .checks
                message := s!"Generated {found.length} assertion blocks" }]
  | .error _ => notes

/-- The generators of the usual kinds of artifacts. -/
def usual : List (String × Generator) :=
  [("physical-ddl", { make := fun _ s d => Artifact.tables s d, log := fun _ s => orderLog s }),
   ("logical-views", { make := Artifact.views, log := viewsLog }),
   ("tests", after Checks.check { make := Artifact.checks, log := checksLog }),
   ("aggregation-views", silent fun _ s d => .ok (Artifact.rollups s d)),
   ("matrix", after Matrix.check (silent fun g _ _ => .ok (Artifact.matrix g))),
   ("nlp-pairs", after Question.check { make := Artifact.questions, log := viewsLog }),
   ("rag-doc", after Sentences.check (silent fun g _ _ => .ok (Artifact.sentences g))),
   ("graph-describe", after Description.check (silent fun g _ _ => .ok g.describe))]

end Generator

/-- Dialects by name, and generators by kind and perhaps a dialect. -/
structure Registry where
  dialects : List (String × Dialect)
  generators : List ((String × Option String) × Generator)

/-- A request for an artifact. -/
structure Request where
  kind : String
  dialect : String
  deriving DecidableEq, Repr

/-- The key under which an artifact is reported. -/
def Request.key (r : Request) : String :=
  s!"{r.kind}:{r.dialect}"

/-- The endings of file names, by kinds of artifacts. -/
def Artifact.endings : List (String × String) :=
  [("physical-ddl", "sql"), ("logical-views", "sql"), ("aggregation-views", "sql"),
   ("tests", "sql"), ("matrix", "csv"), ("nlp-pairs", "jsonl"), ("rag-doc", "txt"),
   ("graph-describe", "md")]

/-- The name of the file that an artifact is written to. -/
def Request.fileName (r : Request) : String :=
  let ending := (Keyed.get? r.kind Artifact.endings).getD "txt"
  s!"{r.kind}.{r.dialect}.{ending}"

namespace Registry

/-- The usual dialects and kinds. -/
def usual : Registry :=
  { dialects := Dialect.usual.map fun d => (d.name, d)
    generators := Generator.usual.map fun (kind, make) => ((kind, none), make) }

/-- Adds a dialect, in place of one of the same name. -/
def addDialect (r : Registry) (d : Dialect) : Registry :=
  { r with dialects := Keyed.put d.name d r.dialects }

/-- Adds a generator for a kind, and for one dialect if given, in place of the one there. -/
def addGenerator (r : Registry) (kind : String) (dialect : Option String) (make : Generator) :
    Registry :=
  { r with generators := Keyed.put (kind, dialect) make r.generators }

/-- Texts in ascending order, each once. -/
def sortNames (names : List String) : List String :=
  names.eraseDups.mergeSort fun a b => decide (a ≤ b)

/-- The names of the dialects, in ascending order. -/
def dialectNames (r : Registry) : List String :=
  sortNames (r.dialects.map (·.1))

/-- The kinds of artifacts, in ascending order. -/
def kinds (r : Registry) : List String :=
  sortNames (r.generators.map (·.1.1))

/-- The dialect of a given name. -/
def dialect? (r : Registry) (name : String) : Option Dialect :=
  Keyed.get? name r.dialects

/-- The generator for a kind: the one for the dialect in question, or else the general one. -/
def generator? (r : Registry) (kind dialect : String) : Option Generator :=
  (Keyed.get? (kind, some dialect) r.generators).or (Keyed.get? (kind, none) r.generators)

/-- The message that a dialect is unknown. -/
def unknownDialect (r : Registry) (name : String) : String :=
  s!"Dialect '{name}' not found. Available dialects: " ++ String.intercalate ", " r.dialectNames

/-- The message that a kind is unknown. -/
def unknownKind (r : Registry) (kind : String) : String :=
  s!"Artifact kind '{kind}' not found. Available kinds: " ++ String.intercalate ", " r.kinds

end Registry

end FactModel
