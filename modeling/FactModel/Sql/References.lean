import FactModel.Sql.Token

/-!
# What a part of a query refers to

Of a query only the columns and tables it refers to are kept, each with its depth in the query,
because references are checked level by level.  This module also holds what all readers of queries
share: a part may be absent, and then nothing is consumed.
-/

namespace FactModel.Sql

/-- The references found in a part of a query, from left to right, with their depths. -/
structure References where
  columns : List (Nat × String)
  tables : List (Nat × String)
  deriving DecidableEq, Repr

namespace References

/-- No references. -/
def none : References :=
  { columns := [], tables := [] }

/-- A column by itself. -/
def column (name : String) : References :=
  { columns := [(0, name)], tables := [] }

/-- A table by itself. -/
def table (name : String) : References :=
  { columns := [], tables := [(0, name)] }

/-- The references of two parts side by side. -/
def beside (r s : References) : References :=
  { columns := r.columns ++ s.columns, tables := r.tables ++ s.tables }

/-- The references of a part seen from the construct around it. -/
def deeper (r : References) : References :=
  { columns := r.columns.map fun (depth, name) => (depth + 1, name)
    tables := r.tables.map fun (depth, name) => (depth + 1, name) }

/-- The references of many parts side by side. -/
def all (parts : List References) : References :=
  parts.foldr beside none

/-- The references of a part without columns of given names. -/
def withoutColumns (names : List String) (r : References) : References :=
  { r with columns := r.columns.filter fun (_, name) => !names.contains name }

/-- Names by depth, the leftmost of one depth first. -/
def byDepth (found : List (Nat × String)) : List String :=
  (found.mergeSort fun a b => a.1 ≤ b.1).map (·.2)

/-- Nothing beside a part changes it. -/
theorem none_beside (r : References) : none.beside r = r := by
  simp [beside, none]

/-- Parts side by side may be grouped in any way. -/
theorem beside_assoc (r s t : References) : (r.beside s).beside t = r.beside (s.beside t) := by
  simp [beside]

end References

/-! ## Readers -/

/-- What reading a part of a query comes to: none when it cannot be read, otherwise the references of
the part, if there is one, and what remains. -/
abbrev Part := Option (Option References × List Token)

/-- What reading a part that must be there comes to. -/
abbrev Found := Option (References × List Token)

/-- A reader of a part of a query. -/
abbrev Reader := List Token → Part

/-- A part that is absent. -/
def absent (ts : List Token) : Part :=
  some (none, ts)

/-- A part that must be there. -/
def Part.required (p : Part) : Found :=
  p.bind fun (r, ts) => r.map fun r => (r, ts)

/-- A part that refers to nothing if it is absent. -/
def Part.optional (p : Part) : Found :=
  p.map fun (r, ts) => (r.getD .none, ts)

/-- A part that was found. -/
def Found.part (f : Found) : Part :=
  f.map fun (r, ts) => (some r, ts)

/-- A part seen from the construct around it. -/
def Found.deeper (f : Found) : Found :=
  f.map fun (r, ts) => (r.deeper, ts)

/-- A part that must be there seen from the construct around it. -/
def Part.within (p : Part) : Found :=
  p.required.deeper

/-! ## Tokens at the front -/

/-- The keyword that a token is, if it is a word at all. -/
def Token.keyword? : Token → Option String
  | .word w => some (upper w)
  | _ => none

/-- Whether one of some keywords stands at the front. -/
def startsWith (words : List String) (ts : List Token) : Bool :=
  (ts.head?.bind Token.keyword?).any words.contains

/-- What remains behind one of some keywords. -/
def skipAny (words : List String) (ts : List Token) : Option (List Token) :=
  if startsWith words ts then some (ts.drop 1) else none

/-- What remains behind a keyword. -/
def skipWord (word : String) (ts : List Token) : Option (List Token) :=
  skipAny [word] ts

/-- What remains behind several keywords. -/
def skipWords : List String → List Token → Option (List Token)
  | [], ts => some ts
  | word :: words, ts => (skipWord word ts).bind (skipWords words)

/-- What remains behind one of some keywords that may be left out. -/
def skipOptional (words : List String) (ts : List Token) : List Token :=
  (skipAny words ts).getD ts

/-- What remains behind several keywords that may be left out together. -/
def skipPhrase (words : List String) (ts : List Token) : List Token :=
  (skipWords words ts).getD ts

/-- What remains behind a sign. -/
def skipSign (mark : String) : List Token → Option (List Token)
  | .sign m :: rest => if m = mark then some rest else none
  | _ => none

/-- What remains behind one of some signs. -/
def skipSigns (marks : List String) : List Token → Option (List Token)
  | .sign m :: rest => if marks.contains m then some rest else none
  | _ => none

/-- What stands behind an opening parenthesis is read up to the closing one. -/
def closed (f : Found) : Found :=
  f.bind fun (r, ts) => (skipSign ")" ts).map fun ts => (r, ts)

/-! ## Lists and chains -/

/-- Reads the further parts of a list behind commas.  The bound is on their number. -/
def moreParts {α : Type} (item : List Token → Option (Option α × List Token)) : (bound : Nat) →
    List Token → Option (List α × List Token)
  | 0, ts => some ([], ts)
  | bound + 1, ts =>
    match skipSign "," ts with
    | none => some ([], ts)
    | some rest => do
      let (r, rest) ← item rest
      let (more, rest) ← moreParts item bound rest
      return (r.toList ++ more, rest)

/-- Reads parts between commas.  Any of them may be absent. -/
def partList {α : Type} (item : List Token → Option (Option α × List Token)) (ts : List Token) :
    Option (List α × List Token) := do
  let (r, rest) ← item ts
  let (more, rest) ← moreParts item rest.length rest
  return (r.toList ++ more, rest)

/-- Reads parts between commas as parts of one construct. -/
def listWithin (item : Reader) (ts : List Token) : Found :=
  (partList item ts).map fun (found, rest) => ((References.all found).deeper, rest)

/-- Reads parts between commas, at least one, as parts of one construct. -/
def someWithin (item : Reader) (ts : List Token) : Found :=
  (partList item ts).bind fun (found, rest) =>
    if found.isEmpty then none else some ((References.all found).deeper, rest)

/-- Reads operands with operators between them onto a first one.  The bound is on their number. -/
def chainFrom (skipOperator : List Token → Option (List Token)) (operand : Reader) :
    (bound : Nat) → Option References → List Token → Part
  | 0, left, ts => some (left, ts)
  | bound + 1, left, ts =>
    match skipOperator ts with
    | none => some (left, ts)
    | some rest => do
      let left ← left
      let (right, rest) ← (operand rest).required
      chainFrom skipOperator operand bound (some (left.beside right).deeper) rest

/-- Reads operands with operators between them from the left.  An operator without operands cannot be
read. -/
def chain (skipOperator : List Token → Option (List Token)) (operand : Reader) : Reader := fun ts => do
  let (first, rest) ← operand ts
  chainFrom skipOperator operand rest.length first rest

/-- The first of some readers that finds its part. -/
def firstOf : List Reader → Reader
  | [], ts => absent ts
  | reader :: readers, ts =>
    match reader ts with
    | some (none, _) => firstOf readers ts
    | read => read

end FactModel.Sql
