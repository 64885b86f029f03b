import FactModel.Sql.Query

/-!
# Definitions of tables

What statements refer to that make, change and remove tables and their indexes, and that say
something about them: comments, rights and copies.
-/

namespace FactModel.Sql

namespace Readers

/-! ## Parts of definitions -/

/-- What remains behind a condition on whether something exists. -/
def skipExistence (ts : List Token) : List Token :=
  skipPhrase ["IF", "EXISTS"] (skipPhrase ["IF", "NOT", "EXISTS"] ts)

/-- A statement of which nothing is known. -/
def silentStatement : Found :=
  some (.none, [])

/-- Reads what definitions of columns refer to: conditions, values in place of missing ones, and other
tables.  They end with the text, or with the closing parenthesis where `depth` further ones are open.
The bound is on the number of tokens. -/
def columnDefinitions (inner : Readers) (enclosed : Bool) : (bound : Nat) → (depth : Nat) →
    List Token → Found
  | _, _, [] => if enclosed then none else some (.none, [])
  | 0, _, _ => none
  | bound + 1, depth, t :: ts =>
    match t, depth with
    | .sign "(", depth => columnDefinitions inner enclosed bound (depth + 1) ts
    | .sign ")", 0 => if enclosed then some (.none, ts) else none
    | .sign ")", depth + 1 => columnDefinitions inner enclosed bound depth ts
    | .word w, 0 =>
      match upper w, ts with
      | "CHECK", .sign "(" :: inside => more bound (closed (inner.expression inside).required)
      | "AS", .sign "(" :: inside => more bound (closed (inner.expression inside).required)
      | "DEFAULT", _ => more bound (inner.value ts).optional
      | "REFERENCES", _ =>
        more bound ((tableName ts).map fun (r, rest) => (r, (skipNames rest).getD rest))
      | _, _ => columnDefinitions inner enclosed bound 0 ts
    | _, _ => columnDefinitions inner enclosed bound depth ts
where
  /-- Reads the definitions behind a part that refers to something. -/
  more (bound : Nat) (f : Found) : Found := do
    let (r, rest) ← f
    let (others, rest) ← columnDefinitions inner enclosed bound 0 rest
    return (r.deeper.deeper.beside others, rest)

/-- Reads the definitions of columns in parentheses, behind the opening one. -/
def columns (inner : Readers) (ts : List Token) : Found :=
  (inner.columnDefinitions true ts.length 0 ts).deeper

/-! ## Making, changing and removing -/

/-- Reads the removal of something behind its first word. -/
def removal (ts : List Token) : Found :=
  let ts := skipOptional ["MATERIALIZED"] (skipOptional ["TEMPORARY", "TEMP"] ts)
  match skipAny kindWords ts with
  | none => silentStatement
  | some rest => do
    let named := skipExistence (skipOptional ["CONCURRENTLY"] rest)
    let (r, behind) ← tableName named
    let r := if startsWith ["COLUMN"] ts then { columns := r.tables, tables := [] }
      else if startsWith ["SCHEMA"] ts ∧ named.length = rest.length then .table "" else r
    let rest := behind
    let rest := if rest.head? = some (.sign "(") then rest.drop (rest.length) else rest
    let rest := skipOptional ["PURGE"] (skipOptional ["CONSTRAINTS"] (skipOptional ["CASCADE"] rest))
    return (r.deeper, rest)

/-- The words in front of what is made. -/
def makingWords : List String :=
  ["GLOBAL", "LOCAL", "TEMP", "TEMPORARY", "UNLOGGED", "MATERIALIZED", "EXTERNAL", "RECURSIVE"]

/-- What remains behind words in front of what is made.  The bound is on their number. -/
def skipMaking : (bound : Nat) → List Token → List Token
  | 0, ts => ts
  | bound + 1, ts =>
    match skipAny makingWords ts with
    | some rest => skipMaking bound rest
    | none => ts

/-- Reads a column of an index, perhaps with the way in which it is compared. -/
def indexed (inner : Readers) : Reader := fun ts => do
  let (r, rest) ← inner.expression ts
  match r with
  | none => absent rest
  | some r =>
    let (way, rest) ←
      if startsWith ["ASC", "DESC", "NULLS", "WITH"] rest ∨ (nameAt rest).isNone then some (.none, rest)
      else (tableName rest).deeper
    let rest := skipOptional ["DESC"] (skipOptional ["ASC"] rest)
    some (some (r.beside way).deeper, skipPhrase ["NULLS", "LAST"] (skipPhrase ["NULLS", "FIRST"] rest))

/-- Reads the making of an index behind the word for it.  What cannot be read is taken as it is. -/
def indexing (inner : Readers) (ts : List Token) : Found := do
  let ts := skipExistence (skipOptional ["CONCURRENTLY"] ts)
  let ts := if startsWith ["ON"] ts then ts else ((nameAt ts).map (·.2)).getD ts
  let (table, ts) ← tableName (skipOptional ["TABLE"] (skipOptional ["ON"] ts))
  let ts := match skipWord "USING" ts with
    | some rest => ((anyName rest).map (·.2)).getD rest
    | none => ts
  let (parts, ts) ← match skipSign "(" ts with
    | some inside => closed (listWithin inner.indexed inside)
    | none => some (.none, ts)
  let ts := match skipWord "INCLUDE" ts with
    | some rest => (skipNames rest).getD rest
    | none => ts
  let (condition, ts) ← match skipWord "WHERE" ts with
    | some rest => (inner.expression rest).within
    | none => some (.none, ts)
  if ts = [] then return ((table.beside (parts.beside condition).deeper).deeper.deeper, ts)
  else silentStatement

/-- Reads the making of a table, a view or an index behind its first word.  What cannot be read is
taken as it is. -/
def making (inner : Readers) (ts : List Token) : Found :=
  let ts := skipPhrase ["OR", "REPLACE"] ts
  let ts := skipMaking ts.length ts
  match skipAny ["TABLE", "VIEW"] ts, skipWord "INDEX" (skipOptional ["UNIQUE"] ts) with
  | none, some rest => inner.indexing rest
  | none, none =>
    match skipAny ["DATABASE", "SEQUENCE"] ts, skipWord "SCHEMA" ts with
    | some rest, _ => (tableName (skipExistence rest)).map fun (r, _) => (r.deeper, [])
    | none, some rest => (tableName (skipExistence rest)).map fun _ => ((References.table "").deeper, [])
    | none, none => silentStatement
  | some rest, _ => do
    let (table, rest) ← tableName (skipExistence rest)
    let (table, rest) ← match skipSign "(" rest with
      | some inside =>
        (inner.columns inside).map fun (r, rest) => (table.deeper.beside r, rest)
      | none => some (table, rest)
    let (r, rest) ← inner.memberOf (skipOptional ["AS"] rest)
    let (r, rest) ← match r with
      | some r => inner.continued r rest
      | none => some (.none, rest)
    if rest = [] then return ((table.beside r).deeper, rest) else silentStatement

/-- Reads what a table is renamed to, behind the word for that. -/
def newName (ts : List Token) : Found :=
  match skipWord "TO" ts, skipWord "COLUMN" ts with
  | some rest, _ => (tableName rest).deeper
  | none, some rest => do
    let (old, rest) ← nameAt rest
    let rest ← skipWord "TO" rest
    let (new, rest) ← nameAt rest
    return (((References.column old).beside (.column new)).deeper, rest)
  | none, none => none

/-- Reads a change of a table behind its first word.  What cannot be read is taken as it is. -/
def alteration (inner : Readers) (ts : List Token) : Found :=
  match skipAny ["TABLE", "VIEW"] ts with
  | none => silentStatement
  | some rest => do
    let (table, rest) ← tableName (skipOptional ["ONLY"] (skipExistence rest))
    match rest.head?.bind Token.keyword? with
    | some "ADD" =>
      let (r, _) ← inner.columnDefinitions false rest.length 0 (rest.drop 1)
      return (table.deeper.beside r.deeper.deeper, [])
    | some "ALTER" | some "SET" => return (table.deeper, [])
    | some "DROP" =>
      match removal (rest.drop 1) with
      | some (r, []) => return ((table.beside r).deeper, [])
      | _ => silentStatement
    | some "RENAME" =>
      match newName (rest.drop 1) with
      | some (r, []) => return ((table.beside r).deeper, [])
      | _ => silentStatement
    | _ => silentStatement

/-- Reads the emptying of tables behind its first word.  What cannot be read is taken as it is. -/
def emptying (ts : List Token) : Found := do
  let (r, rest) ← listWithin (fun ts => Found.part (tableName ts))
    (skipExistence (skipOptional ["TABLE", "DATABASE"] ts))
  let rest := skipPhrase ["CONTINUE", "IDENTITY"] (skipPhrase ["RESTART", "IDENTITY"] rest)
  if skipOptional ["CASCADE", "RESTRICT"] rest = [] then return (r, []) else silentStatement

/-! ## Saying something about tables -/

/-- Reads a comment behind its first word.  What cannot be read is taken as it is. -/
def commentary (inner : Readers) (ts : List Token) : Found :=
  let ts := skipOptional ["MATERIALIZED"] (skipOptional ["ON"] (skipExistence ts))
  match skipAny kindWords ts with
  | none => silentStatement
  | some rest => do
    let (r, rest) ←
      if startsWith ["TABLE"] ts then tableName rest
      else if startsWith ["COLUMN"] ts then (inner.unary rest).required
      else (nameAt rest).map fun (_, rest) => (.none, rest)
    match skipOptional ["IS"] rest with
    | .text _ :: rest => return (r.deeper, skipTexts rest)
    | rest => return (r.deeper, rest)

/-- Whether a token ends the words for a right. -/
def endsRight (t : Token) : Bool :=
  t == .sign "," || t == .sign "(" || t.keyword? == some "ON"

/-- Reads rights, perhaps on columns.  The bound is on their number. -/
def rights (inner : Readers) : (bound : Nat) → List Token → Option (List References × List Token)
  | 0, _ => none
  | bound + 1, ts => do
    let rest := ts.dropWhile (!endsRight ·)
    let (found, rest) ← match skipSign "(" rest with
      | some inside => closed (listWithin inner.unary inside)
      | none => some (.none, rest)
    match skipSign "," rest with
    | none => return ([found], rest)
    | some rest =>
      let (more, rest) ← inner.rights bound rest
      return (found :: more, rest)

/-- Reads who is given rights. -/
def holder : Reader := fun ts =>
  match nameAt (skipOptional ["GROUP", "ROLE"] ts) with
  | some (_, rest) => some (some .none, rest)
  | none => absent ts

/-- Reads the giving or the taking of rights behind its first word; `toward` stands in front of those
who have them.  What cannot be read is taken as it is. -/
def granting (inner : Readers) (toward : String) (ts : List Token) : Found :=
  let read : Option References := do
    let (found, rest) ← inner.rights ts.length (skipPhrase ["GRANT", "OPTION", "FOR"] ts)
    let rest := skipOptional kindWords (skipOptional ["ON"] rest)
    let (table, rest) ← tableName rest
    let rest ← skipWord toward rest
    let (_, rest) ← partList holder rest
    let rest := skipOptional ["CASCADE", "RESTRICT"] (skipPhrase ["WITH", "GRANT", "OPTION"] rest)
    if rest = [] then some ((References.all found).deeper.beside table.deeper) else none
  match read with
  | some r => some (r, [])
  | none => silentStatement

/-- Reads the copying of a table or of what a query finds, behind its first word. -/
def copying (inner : Readers) (ts : List Token) : Found := do
  let ts := skipOptional ["INTO"] ts
  let (r, rest) ← match skipSign "(" ts with
    | some inside => (closed (inner.statement inside).required).deeper
    | none => (tableName ts).map fun (r, rest) => (r, (skipNames rest).getD rest)
  if startsWith ["FROM", "TO"] rest then return (r.deeper, []) else silentStatement

/-- The words behind the one for an analysis. -/
def analysisWords : List String :=
  ["FULL", "INDEX", "LOCAL", "NO_WRITE_TO_BINLOG", "SAMPLE", "SKIP_LOCKED", "TABLE", "VERBOSE"]

/-- Reads the analysis of a table behind its first word. -/
def analysis (ts : List Token) : Found :=
  if ts = [] then silentStatement
  else (tableName (skipOptional analysisWords (skipOptional analysisWords ts))).deeper

end Readers

end FactModel.Sql
