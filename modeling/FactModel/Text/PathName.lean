/-!
# Path names

A path is absolute or relative and has parts between slashes.  Empty parts and parts that are a
single point say nothing.  Exactly two slashes at the front are a root of their own.
-/

namespace FactModel.Text

/-- The path of a file or a directory. -/
structure PathName where
  /-- The slashes at the front that count. -/
  root : List Char
  /-- The parts that count. -/
  parts : List (List Char)
  deriving DecidableEq, Repr

namespace PathName

/-- The pieces between the slashes of a text. -/
def pieces : List Char → List (List Char)
  | [] => [[]]
  | c :: cs =>
    if c = '/' then [] :: pieces cs
    else
      match pieces cs with
      | [] => [[c]]
      | piece :: rest => (c :: piece) :: rest

/-- Whether a part says something. -/
def counts (part : List Char) : Bool :=
  part != [] && part != ['.']

/-- The slashes at the front of a text that count. -/
def rootOf (cs : List Char) : List Char :=
  let slashes := (cs.takeWhile (· = '/')).length
  if slashes = 0 then [] else if slashes = 2 then ['/', '/'] else ['/']

/-- The path that a text denotes. -/
def ofString (text : String) : PathName :=
  { root := rootOf text.toList, parts := (pieces text.toList).filter counts }

/-- A file in a directory. -/
def child (p : PathName) (name : String) : PathName :=
  let inner := ofString name
  if inner.root = [] then { p with parts := p.parts ++ inner.parts } else inner

/-- The directory that a path is in. -/
def dir (p : PathName) : PathName :=
  { p with parts := p.parts.dropLast }

/-- The text of a path. -/
def text (p : PathName) : String :=
  if p.root = [] ∧ p.parts = [] then "."
  else String.ofList (p.root ++ (p.parts.intersperse ['/']).flatten)

/-- A part of a path says something. -/
theorem counts_of_mem_parts {text : String} {part : List Char}
    (found : part ∈ (ofString text).parts) : counts part = true :=
  (List.mem_filter.1 found).2

end PathName

end FactModel.Text
