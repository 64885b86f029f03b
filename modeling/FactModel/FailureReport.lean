import FactModel.Json.Writer
import FactModel.Log
import FactModel.Text.Case

/-!
# Reports on failures

A failure is logged with its kind, its message and what the program was doing.
-/

namespace FactModel

open FactModel.Text

/-- A failure and what is known about it.  What is empty is not told. -/
structure FailureReport where
  kind : String
  message : String
  operation : String
  artifact : String
  dialect : String
  context : List (String × Json)
  /-- The number of diagnostics recorded before the failure. -/
  diagnostics : Nat
  level : LogLevel

/-- The level that a word names; any other word means an error. -/
def LogLevel.ofWord (word : String) : LogLevel :=
  let low := String.ofList (lower word.toList)
  if low = "critical" then .critical else if low = "warning" then .warning else .error

namespace FailureReport

/-- A report of which nothing is known but the failure. -/
def plain (kind message : String) : FailureReport :=
  { kind, message, operation := "", artifact := "", dialect := "", context := [],
    diagnostics := 0, level := .error }

/-- A named part of a report, unless it is empty. -/
def part (name text : String) : List String :=
  if text = "" then [] else [s!"{name}: {text}"]

/-- The context of a failure as it is told. -/
def contextText (r : FailureReport) : String :=
  String.intercalate ", " (r.context.map fun (key, value) => s!"{key}={value.shown}")

/-- The parts of a report. -/
def parts (r : FailureReport) : List String :=
  [s!"[{r.kind}] {r.message}"] ++ part "Operation" r.operation ++ part "Artifact" r.artifact ++
    part "Dialect" r.dialect ++ part "Context" r.contextText

/-- The log lines of a report. -/
def log (r : FailureReport) : List LogLine :=
  { level := r.level, source := .failures, message := String.intercalate " | " r.parts } ::
    if r.diagnostics = 0 then []
    else
      [{ level := .debug, source := .failures
         message := s!"{r.diagnostics} diagnostics recorded before the failure" }]

end FailureReport

end FactModel
