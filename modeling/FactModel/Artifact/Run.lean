import FactModel.Artifact.Registry
import FactModel.FailureReport
import FactModel.Schema.Mapping

/-!
# Running generators

One request gives an artifact or a failure.  A run serves many requests, each distinct one once, and
reports artifacts in the order of requests whatever the order in which they were completed.
-/

namespace FactModel

/-- Why a request is not met. -/
inductive RequestError where
  | unknownDialect (message : String)
  | unknownKind (message : String)
  | failed (cause : ArtifactFailure)
  deriving DecidableEq, Repr

/-- A request that is not met. -/
structure Refusal where
  request : Request
  error : RequestError
  deriving DecidableEq, Repr

/-- The wording of a refusal.  A circle of tables speaks for itself; any other cause is told with
the request. -/
def Refusal.message (r : Refusal) : String :=
  match r.error with
  | .unknownDialect message | .unknownKind message => message
  | .failed (.circular tables) => (ArtifactFailure.circular tables).message
  | .failed cause => s!"{r.request.kind} ({r.request.dialect}) failed: {cause.causeMessage}"

/-- Whether a refusal is due to a circle of tables. -/
def Refusal.isCircular (r : Refusal) : Bool :=
  match r.error with
  | .failed (.circular _) => true
  | _ => false

/-- The name of a refusal in reports. -/
def Refusal.name (r : Refusal) : String :=
  if r.isCircular then "SchemaCycleError" else "GenerationError"

namespace Registry

/-- The dialect and the generator for a request. -/
def find (r : Registry) (request : Request) : Except RequestError (Dialect × Generator) :=
  match r.dialect? request.dialect with
  | none => .error (.unknownDialect (r.unknownDialect request.dialect))
  | some d =>
    match r.generator? request.kind request.dialect with
    | none => .error (.unknownKind (r.unknownKind request.kind))
    | some make => .ok (d, make)

/-- Makes the artifact that is requested. -/
def generate (r : Registry) (g : Graph) (request : Request) : Except Refusal String :=
  match r.find request with
  | .error error => .error { request, error }
  | .ok (d, generator) =>
    let made : Except ArtifactFailure String := do
      let s ← (Schema.map g).mapError .lookup
      generator.make g s d
    made.mapError fun cause => { request, error := .failed cause }

/-- The log lines of mapping a graph to its schema. -/
def mappingLog (g : Graph) : List LogLine :=
  let s := Schema.ofGraph g
  ((Mapping.notes g).map fun note =>
    { level := .warning, source := .mapper, message := note.message }) ++
    [{ level := .debug, source := .mapper
       message := s!"Mapped {s.tables.length} tables, {s.keyCount} foreign keys" }]

/-- The log lines of making one artifact. -/
def generateLog (r : Registry) (g : Graph) (request : Request) : List LogLine :=
  match r.find request with
  | .error _ => []
  | .ok (_, generator) => mappingLog g ++ generator.log g (Schema.ofGraph g)

end Registry

/-- The outcome of many requests: artifacts and refusals by the keys of their requests. -/
structure Run where
  artifacts : List (String × String)
  refusals : List (String × Refusal)

namespace Run

/-- Whether all requests were met. -/
def ok (run : Run) : Bool :=
  run.refusals.isEmpty

/-- What is known while requests are being completed. -/
structure Progress where
  results : List (String × String)
  refusals : List (String × Refusal)

/-- Takes in the outcome of a request. -/
def Progress.complete (p : Progress) (request : Request) : Except Refusal String → Progress
  | .ok content => { p with results := Keyed.put request.key content p.results }
  | .error refusal => { p with refusals := Keyed.put request.key refusal p.refusals }

/-- The run of distinct requests that are completed in a given order. -/
def ofCompletion (outcome : Request → Except Refusal String)
    (requests completed : List Request) : Run :=
  let p := completed.foldl (fun p request => p.complete request (outcome request))
    { results := [], refusals := [] : Progress }
  { artifacts := Keyed.ofList (requests.filterMap fun request =>
      (Keyed.get? request.key p.results).map fun content => (request.key, content))
    refusals := p.refusals }

/-- The default number of workers. -/
def defaultWorkers : Nat := 4

/-- The number of workers of a run; none or zero asked for means the default. -/
def workers (asked : Option Int) : Int :=
  match asked with
  | some n => if n = 0 then defaultWorkers else n
  | none => defaultWorkers

/-- The report on a refusal. -/
def report (request : Request) (refusal : Refusal) : FailureReport :=
  { FailureReport.plain refusal.name refusal.message with
    operation := "generate artifact", artifact := request.kind, dialect := request.dialect }

/-- The outcome of a request in the log. -/
def outcomeLog (request : Request) : Except Refusal String → List LogLine
  | .ok content =>
    [{ level := .debug, source := .runner
       message := s!"Generated {request.key} ({content.length} chars)" }]
  | .error refusal => (report request refusal).log

end Run

namespace Registry

/-- Serves the distinct ones among many requests, completed in the order in which they were made.
Fewer workers than one are refused, unless there is nothing to do. -/
def generateMany (r : Registry) (g : Graph) (requests : List Request) (asked : Option Int) :
    Except String Run :=
  let distinct := requests.eraseDups
  if distinct.isEmpty then .ok { artifacts := [], refusals := [] }
  else if Run.workers asked ≤ 0 then .error "max_workers must be greater than 0"
  else .ok (Run.ofCompletion (r.generate g) distinct distinct)

/-- The log lines of serving many requests with one worker. -/
def generateManyLog (r : Registry) (g : Graph) (requests : List Request) : List LogLine :=
  let distinct := requests.eraseDups
  if distinct.isEmpty then []
  else
    let run := Run.ofCompletion (r.generate g) distinct distinct
    [{ level := .info, source := .runner
       message := s!"Generating {distinct.length} artifacts with 1 workers" }] ++
      (distinct.flatMap fun request =>
        r.generateLog g request ++ Run.outcomeLog request (r.generate g request)) ++
      [{ level := .info, source := .runner
         message := s!"Generated {run.artifacts.length} artifacts, {run.refusals.length} failed" }]

end Registry

end FactModel
