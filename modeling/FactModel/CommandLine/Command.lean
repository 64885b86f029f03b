import FactModel.CommandLine.Words
import FactModel.Json.NumberText
import FactModel.Text.PathName

/-!
# Commands

What the program can be told to do with a model file.
-/

namespace FactModel.CommandLine

open FactModel.Text

/-- Something to do with a model. -/
inductive Command where
  /-- Report what is odd; `strict` makes schema issues a failure. -/
  | check (strict : Bool)
  /-- Make one artifact. -/
  | generate (kind : String) (dialect : Option String) (out : Option PathName)
  /-- Make several artifacts in a directory; the usual ones where none are named. -/
  | build (dir : Option PathName) (dialects kinds : List String) (workers : Option Int)
  /-- Plan the query for a question, perhaps with a chat model. -/
  | ask (question : String) (dialect : Option String) (chat : Bool)
  /-- Tell the model, or one entity of it, in canonical words. -/
  | describe (entity : Option String)
  deriving DecidableEq, Repr

/-- A command and the model file it is about. -/
structure Invocation where
  model : PathName
  command : Command
  deriving DecidableEq, Repr

namespace Command

/-- The option that names a dialect. -/
def dialectSwitch : Switch :=
  { name := "dialect", letter := some 'd', valued := true }

/-- The option that names a kind of artifact. -/
def kindSwitch : Switch :=
  { name := "kind", letter := some 'k', valued := true }

/-- The option that names an output file. -/
def outSwitch : Switch :=
  { name := "out", letter := some 'o', valued := true }

/-- The option that gives the number of workers. -/
def workersSwitch : Switch :=
  { name := "workers", letter := some 'w', valued := true }

/-- The option that makes schema issues a failure. -/
def strictSwitch : Switch :=
  { name := "strict", letter := none, valued := false }

/-- The option that has a chat model resolve the question. -/
def chatSwitch : Switch :=
  { name := "llm", letter := none, valued := false }

/-- The options of a command of a given name. -/
def switches? : String → Option (List Switch)
  | "check" => some [strictSwitch]
  | "generate" => some [kindSwitch, dialectSwitch, outSwitch]
  | "build" => some [dialectSwitch, kindSwitch, workersSwitch]
  | "ask" => some [dialectSwitch, chatSwitch]
  | "describe" => some []
  | _ => none

/-- The number of workers that words ask for; an outer none when it is no number.  Only the last word
for it counts. -/
def workersOf (ws : Words) : Option (Option Int) :=
  match ws.value? workersSwitch.name with
  | none => some none
  | some word => (Json.readInteger word.toList).toOption.map some

/-- The command that sorted words make up, and its model. -/
def ofWords (name : String) (ws : Words) : Option Invocation :=
  let dialect := ws.value? dialectSwitch.name
  match name, ws.operands with
  | "check", [model] => some ⟨.ofString model, .check (ws.has strictSwitch.name)⟩
  | "generate", [model] =>
    (ws.value? kindSwitch.name).map fun kind =>
      ⟨.ofString model, .generate kind dialect ((ws.value? outSwitch.name).map .ofString)⟩
  | "build", model :: dir =>
    if 1 < dir.length then none
    else
      (workersOf ws).map fun workers =>
        ⟨.ofString model, .build (dir.head?.map .ofString) (ws.values dialectSwitch.name)
          (ws.values kindSwitch.name) workers⟩
  | "ask", [model, question] =>
    some ⟨.ofString model, .ask question dialect (ws.has chatSwitch.name)⟩
  | "describe", model :: entity =>
    if 1 < entity.length then none else some ⟨.ofString model, .describe entity.head?⟩
  | _, _ => none

end Command

/-- Reads the words that the program is called with; none when they make no sense. -/
def Invocation.ofArguments : List String → Option Invocation
  | [] => none
  | name :: words => do
    let switches ← Command.switches? name
    let sorted ← Words.read switches none words
    Command.ofWords name sorted

end FactModel.CommandLine
