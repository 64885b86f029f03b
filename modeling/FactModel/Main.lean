import FactModel.CommandLine.Run

/-!
# The program

Reads the arguments and the model file, prints what the command has to say and writes its files.
-/

namespace FactModel.CommandLine

/-- The content of a file, unless there is none. -/
def contentOf (path : String) : IO (Option (List Nat)) := do
  try
    let bytes ← IO.FS.readBinFile path
    return some (bytes.toList.map UInt8.toNat)
  catch _ => return none

/-- Writes a file and makes the directories that it is in. -/
def writeFile (path : Text.PathName) (content : String) : IO Unit := do
  IO.FS.createDirAll path.dir.text
  IO.FS.writeFile path.text content

/-- The exit code of arguments that make no sense. -/
def usageCode : UInt32 := 2

/-- Prints the output of a command, writes its files and tells how it ended. -/
def perform (effect : Effect) : IO UInt32 := do
  for (path, content) in effect.files do
    writeFile path content
  IO.print effect.out
  IO.eprint effect.err
  if let some crash := effect.crash then
    IO.eprintln crash.message
  return effect.exitCode.toUInt32

end FactModel.CommandLine

/-- Runs the program. -/
def main (args : List String) : IO UInt32 := do
  match FactModel.CommandLine.Invocation.ofArguments args with
  | none =>
    IO.eprintln "Usage: check | generate | build | ask | describe, then MODEL and options"
    return FactModel.CommandLine.usageCode
  | some invocation =>
    let content ← FactModel.CommandLine.contentOf invocation.model.text
    FactModel.CommandLine.perform (invocation.run .usual content)
