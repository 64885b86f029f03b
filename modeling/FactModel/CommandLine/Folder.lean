import FactModel.Text.PathName
import FactModel.Text.Quoted

/-!
# The working directory

Files are written into directories that are made on the way.  The working directory holds the
model file and nothing else at first; what lies outside of it can be written to as well.
-/

namespace FactModel.CommandLine

open FactModel.Text

/-- A place in the file system. -/
structure Place where
  /-- The root that the place is counted from; empty when it is counted from the working
  directory. -/
  root : List Char
  /-- The levels above the working directory. -/
  up : Nat
  /-- The names on the way down from there. -/
  down : List (List Char)
  deriving DecidableEq, Repr

namespace Place

/-- The place that a path begins at. -/
def start (path : PathName) : Place :=
  { root := path.root, up := 0, down := [] }

/-- The place that a part of a path leads to. -/
def step (p : Place) (part : List Char) : Place :=
  if part = ['.', '.'] then
    if p.down ≠ [] then { p with down := p.down.dropLast }
    else if p.root = [] then { p with up := p.up + 1 }
    else p
  else { p with down := p.down ++ [part] }

/-- Whether a place lies in the working directory. -/
def isInside (p : Place) : Bool :=
  p.root == [] && p.up == 0

/-- The path of a place inside the working directory. -/
def text (p : Place) : String :=
  String.ofList (p.down.intersperse ['/']).flatten

end Place

/-- Why a file cannot be written. -/
inductive WriteError where
  /-- A directory is to be made where a file is. -/
  | fileExists (path : PathName)
  /-- A path leads through a file. -/
  | notDirectory (path : PathName)
  /-- A path leads through nothing. -/
  | missing (path : PathName)
  /-- A file is to be written where a directory is. -/
  | isDirectory (path : PathName)
  | longName (path : PathName)
  /-- A path holds the null character. -/
  | nullCharacter
  deriving DecidableEq, Repr

/-- The wording of a failure to write. -/
def WriteError.message : WriteError → String
  | .fileExists path => s!"[Errno 17] File exists: {quote path.text}"
  | .notDirectory path => s!"[Errno 20] Not a directory: {quote path.text}"
  | .missing path => s!"[Errno 2] No such file or directory: {quote path.text}"
  | .isDirectory path => s!"[Errno 21] Is a directory: {quote path.text}"
  | .longName path => s!"[Errno 36] File name too long: {quote path.text}"
  | .nullCharacter => "embedded null byte"

/-- What is known of directories and files. -/
structure Folder where
  directories : List Place
  files : List (Place × String)
  deriving DecidableEq, Repr

namespace Folder

/-- A folder with one file, and the directories that it is in. -/
def ofFile (path : PathName) (content : String) : Folder :=
  let place (count : Nat) : Place := (path.parts.take count).foldl Place.step (.start path)
  { directories := (List.range path.parts.length).map place
    files := [(place path.parts.length, content)] }

/-- Whether a place is a directory.  The working directory and those above it are. -/
def isDirectory (f : Folder) (p : Place) : Bool :=
  p.down.isEmpty || f.directories.contains p

/-- Whether there is a file at a place. -/
def isFile (f : Folder) (p : Place) : Bool :=
  f.files.any (·.1 == p)

/-- The most bytes in the name of a file. -/
def longestName : Nat := 255

/-- The place that a path leads to, through directories only.  There may be nothing at its end. -/
def follow (f : Folder) (path : PathName) : Except WriteError Place :=
  if path.parts.any (·.contains '\x00') then .error .nullCharacter
  else path.parts.foldlM step (.start path)
where
  /-- One step of the way. -/
  step (p : Place) (part : List Char) : Except WriteError Place :=
    if f.isFile p then .error (.notDirectory path)
    else if !f.isDirectory p then .error (.missing path)
    else if longestName < (String.ofList part).utf8ByteSize then .error (.longName path)
    else .ok (p.step part)

/-- Makes a directory in a directory that is there, unless it is there itself. -/
def makeOne (f : Folder) (path : PathName) : Except WriteError Folder := do
  let p ← f.follow path
  if f.isFile p then throw (.fileExists path)
  if f.isDirectory p then return f
  return { f with directories := p :: f.directories }

/-- Makes a directory and those that it is in.  The bound is on the number of parts. -/
def makeAll (f : Folder) : (bound : Nat) → PathName → Except WriteError Folder
  | 0, path => f.makeOne path
  | bound + 1, path =>
    match f.makeOne path with
    | .error (.missing _) => do
      let f ← f.makeAll bound path.dir
      f.makeOne path
    | made => made

/-- Writes a file and makes the directories that it is in. -/
def write (f : Folder) (path : PathName) (content : String) : Except WriteError Folder := do
  let f ← f.makeAll path.parts.length path.dir
  let p ← f.follow path
  if f.isDirectory p then throw (.isDirectory path)
  return { f with files := (p, content) :: f.files.filter (·.1 != p) }

/-- The files inside the working directory. -/
def inside (f : Folder) : List (String × String) :=
  (f.files.filter (·.1.isInside)).map fun (p, content) => (p.text, content)

/-- A file that was written is there. -/
theorem isFile_of_write {f written : Folder} {path : PathName} {content : String}
    (success : f.write path content = .ok written) :
    ∃ p, (p, content) ∈ written.files := by
  simp only [write, bind, Except.bind, pure, Except.pure, throw, throwThe,
    MonadExceptOf.throw] at success
  split at success
  · cases success
  · split at success
    · cases success
    · next p _ =>
      split at success
      · cases success
      · cases success
        exact ⟨p, List.mem_cons_self⟩

end Folder

end FactModel.CommandLine
