import FactModel.Artifact.Run
import FactModel.Chat
import FactModel.CommandLine.Command
import FactModel.CommandLine.Folder
import FactModel.Graph.Build
import FactModel.Graph.Subtype
import FactModel.Issue
import FactModel.Query.Plan
import FactModel.Query.Reply
import FactModel.Text.Printed
import FactModel.Text.Utf8

/-!
# Running commands

What a command prints, which files it writes and how it ends, given the settings and the content of
the model file.
-/

namespace FactModel.CommandLine

open FactModel.Text

/-- What ends a command without a message of its own. -/
inductive Crash where
  | unknownDialect (message : String)
  | noWorkers (message : String)
  | chat (message : String)
  | count (error : CountError)
  /-- A planned query does not consist of tokens. -/
  | tokens
  | write (error : WriteError)
  deriving DecidableEq, Repr

/-- The wording of a crash. -/
def Crash.message : Crash → String
  | .unknownDialect message | .noWorkers message | .chat message => message
  | .count error => error.message
  | .tokens => "Error tokenizing the planned query"
  | .write error => error.message

/-- What a command does. -/
structure Effect where
  /-- The text on the standard output. -/
  out : String
  /-- The text on the standard error output. -/
  err : String
  /-- The files that are written, in this order. -/
  files : List (PathName × String)
  exitCode : Nat
  crash : Option Crash

namespace Effect

/-- Lines with their ends. -/
def lines (texts : List String) : String :=
  String.join (texts.map (· ++ "\n"))

/-- Printing a text. -/
def print (text : String) : Effect :=
  { out := text, err := "", files := [], exitCode := 0, crash := none }

/-- Failing with reports. -/
def fail (reports : List String) : Effect :=
  { out := "", err := lines reports, files := [], exitCode := 1, crash := none }

/-- Failing with an error. -/
def error (message : String) : Effect :=
  fail [s!"Error: {message}"]

/-- Failing without a message. -/
def crashed (crash : Crash) : Effect :=
  { out := "", err := "", files := [], exitCode := 1, crash := some crash }

end Effect

/-! ## The model -/

/-- The report of a diagnostic. -/
def warning (d : Diagnostic) : String :=
  s!"warning: {d.report}"

/-- Failing because a model does not compile. -/
def rejected : CompileFailure → Effect
  | .rejected r => .fail (r.diagnostics.map warning ++ [s!"Error: {r.error.message}"])
  | .count error => .error error.message

/-- The graph of a model file with some content, or the effect of its having none. -/
def loadGraph (path : PathName) (content : Option (List Nat)) : Except Effect Graph :=
  match content with
  | none => .error (.error s!"Model file not found: {path.text}")
  | some bytes => do
    let text ← (Utf8.decode bytes).mapError fun e => Effect.error e.message
    if (trim text.toList).isEmpty then .error (.error s!"Model file is empty: {path.text}")
    else (compile text).mapError rejected

/-! ## The commands -/

/-- The line that sums up a graph and the issues of its schema. -/
def summaryLine (g : Graph) (issues : Nat) : String :=
  let declared := (g.entities.filter (·.declared)).length
  s!"✓ {declared} entities ({g.entities.length - declared} stubs), " ++
    s!"{g.attributes.length} attributes, {g.derived.length} derived, " ++
    s!"{g.relationships.length} relationships, {g.constraints.length} constraints, " ++
    s!"{g.subtypeRules.length} subtype rules, {g.warnings.length} warnings, " ++
    s!"{issues} schema issues"

/-- The issues of the schema of a graph. -/
def issuesOf (g : Graph) : List Issue :=
  match Issue.all g (Schema.ofGraph g) with
  | .ok issues => issues
  | .error _ => []

/-- Reports what is odd about a model. -/
def check (g : Graph) (strict : Bool) : Effect :=
  let issues := issuesOf g
  { out := Effect.lines [summaryLine g issues.length]
    err := Effect.lines (g.warnings.map warning ++
      issues.map fun i => s!"schema: [{i.code}] {i.message}")
    files := [], exitCode := if strict ∧ issues ≠ [] then 1 else 0, crash := none }

/-- The dialect to work in: the usual one when none is named. -/
def dialectOr (s : Settings) (dialect : Option String) : String :=
  (Settings.given? dialect).getD s.dialect

/-- Makes one artifact and prints it or writes it to a file. -/
def generate (s : Settings) (g : Graph) (folder : Folder) (kind : String) (dialect : Option String)
    (out : Option PathName) : Effect :=
  match Registry.usual.generate g { kind, dialect := dialectOr s dialect } with
  | .error refusal => .error refusal.message
  | .ok content =>
    match out with
    | none => .print content
    | some path =>
      match folder.write path content with
      | .error error => .crashed (.write error)
      | .ok _ =>
        { out := "", err := Effect.lines [s!"✓ {kind} written to {path.text}"]
          files := [(path, content)], exitCode := 0, crash := none }

/-- The requests of a build, dialect by dialect; the usual dialect and all kinds where none are
named. -/
def requestsOf (s : Settings) (dialects kinds : List String) : List Request :=
  let dialects := if dialects.isEmpty then [s.dialect] else dialects
  let kinds := if kinds.isEmpty then Registry.usual.kinds else kinds
  dialects.flatMap fun dialect => kinds.map fun kind => { kind, dialect }

/-- The file of the artifact under a key. -/
def fileOf (requests : List Request) (dir : PathName) (key : String) : PathName :=
  dir.child (((requests.find? (·.key == key)).map Request.fileName).getD key)

/-- Writes artifacts under their keys to files, one after the other, until one cannot be written. -/
def writeAll (folder : Folder) : List (String × PathName × String) → Effect
  | [] => .print ""
  | (key, path, content) :: rest =>
    match folder.write path content with
    | .error error => .crashed (.write error)
    | .ok folder =>
      let later := writeAll folder rest
      { later with
        out := Effect.lines [s!"✓ {key} -> {path.text}"] ++ later.out
        files := (path, content) :: later.files }

/-- Makes several artifacts in a directory. -/
def build (s : Settings) (g : Graph) (folder : Folder) (dir : Option PathName)
    (dialects kinds : List String) (workers : Option Int) : Effect :=
  let dir := dir.getD s.outputDir
  let requests := requestsOf s dialects kinds
  match Registry.usual.generateMany g requests workers with
  | .error message => .crashed (.noWorkers message)
  | .ok run =>
    let written := writeAll folder (run.artifacts.map fun (key, content) =>
      (key, fileOf requests dir key, content))
    if written.crash.isSome then written
    else
      { written with
        err := Effect.lines (run.refusals.map fun (key, refusal) => s!"✗ {key}: {refusal.message}")
        exitCode := if run.ok then 0 else 1 }

/-- The effect of a question that has no intent. -/
def unresolved : Reply.ReplyError → Effect
  | .unresolved error => .error error.message
  | .count error => .crashed (.count error)

/-- A failure to reach a service. -/
def noConnection : CallFailure :=
  { kind := .runtime, text := "Connection error.", status := none }

/-- Resolves any question by a chat model.  There is no connection to a service, so what is asked does
not matter. -/
def resolveByChat (s : Settings) : Except Effect Intent := do
  let exchange := Chat.send s false fun _ => .error noConnection
  let reply ← exchange.answer.mapError fun e => Effect.crashed (.chat (Chat.message s e))
  (Reply.resolve reply).mapError unresolved

/-- Resolves a question by its keywords. -/
def resolveByKeywords (g : Graph) (question : String) : Except Effect Intent :=
  (Keyword.resolve g question).mapError fun e => .error e.message

/-- Plans the query for a question. -/
def ask (s : Settings) (g : Graph) (question : String) (dialect : Option String) (chat : Bool) :
    Except Effect Effect := do
  let name := dialectOr s dialect
  let d ← match Registry.usual.dialect? name with
    | some d => pure d
    | none => throw (.crashed (.unknownDialect (Registry.usual.unknownDialect name)))
  let schema ← (Schema.map g).mapError fun e => Effect.error e.message
  let views ← (View.all g schema).mapError fun e => Effect.error e.message
  let intent ← if chat then resolveByChat s else resolveByKeywords g question
  let planner : Planner := { graph := g, views, dialect := d }
  match planner.plan intent with
  | .ok plan => return .print (Effect.lines [plan.query.render d])
  | .error (.ungrounded cause) => throw (.error cause.message)
  | .error .tokens => throw (.crashed .tokens)

/-- The lines about one entity: its facts, its derived attributes, and what it also is. -/
def entityLines (g : Graph) (e : Entity) : List String :=
  [Description.header e] ++ Description.bullets g e ++
    ((g.derivedOf e.index).map fun d => s!"  derived: {d.name} ({d.type.name})") ++
    ((g.entities.filter fun other => other.index != e.index && g.isSubtype e.index other.index).map
      fun other => s!"  classifies as: {other.name}")

/-- Tells a model, or one entity of it. -/
def describe (g : Graph) : Option String → Effect
  | none => .print g.describe
  | some name =>
    match (g.indexOf? name).bind (g.entities[·]?) with
    | some e => .print (Effect.lines (entityLines g e))
    | none => .error s!"unknown entity '{name}'"

/-- Runs a command on a graph. -/
def Command.run (s : Settings) (g : Graph) (folder : Folder) : Command → Effect
  | .check strict => CommandLine.check g strict
  | .generate kind dialect out => CommandLine.generate s g folder kind dialect out
  | .build dir dialects kinds workers => CommandLine.build s g folder dir dialects kinds workers
  | .ask question dialect chat =>
    match CommandLine.ask s g question dialect chat with
    | .ok effect | .error effect => effect
  | .describe entity => CommandLine.describe g entity

/-- An effect whose texts are as they are printed. -/
def Effect.printed (e : Effect) : Effect :=
  { e with out := Text.printed e.out, err := Text.printed e.err }

/-- The working directory with the model file of a command alone. -/
def Invocation.folder (i : Invocation) : Folder :=
  .ofFile i.model ""

/-- Runs a command on its model file, whose content is given if there is one. -/
def Invocation.run (s : Settings) (i : Invocation) (content : Option (List Nat)) : Effect :=
  match loadGraph i.model content with
  | .ok g => (i.command.run s g i.folder).printed
  | .error effect => effect.printed

/-- The files besides the model file that a command leaves in the working directory. -/
def Invocation.filesLeft (i : Invocation) (e : Effect) : List (String × String) :=
  let left := e.files.foldl (fun folder (path, content) =>
    (folder.write path content).toOption.getD folder) i.folder
  left.inside.filter (·.1 != i.model.text)

end FactModel.CommandLine
