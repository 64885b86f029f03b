import FactModel.Sql.Expression

/-!
# Queries

What a query refers to: its tables and joins, its clauses, what is united with it, and the queries
that are named in front of it.
-/

namespace FactModel.Sql

namespace Readers

/-! ## Tables -/

/-- The words that begin a remark on the indexes of a table. -/
def hintWords (g : Grammar) : List String :=
  if g = .mysql then ["FORCE", "IGNORE", "USE"] else ["USE"]

/-- What remains behind another name for a table, with names for its columns perhaps. -/
def skipTableAlias (inner : Readers) (except : List String) (ts : List Token) : List Token :=
  if inner.limits ts ∨ (inner.grammar = .mysql ∧ startsWith (hintWords .mysql) ts) then ts
  else
    let name := match skipWord "AS" ts with
      | some rest => ((anyName rest).map (·.2)).getD rest
      | none => if startsWith except ts then ts else ((nameOrText ts).map (·.2)).getD ts
    (skipNames name).getD name

/-- Reads one of the names that make up the name of a table. -/
def tablePart (ts : List Token) : Option (String × List Token) :=
  (nameOrText ts).or ((skipPlaceholder ts).map fun rest => ("", rest))

/-- Reads the further names of a table behind points; the last one counts. -/
def tableFrom (last : String) : (bound : Nat) → List Token → String × List Token
  | 0, ts => (last, ts)
  | bound + 1, ts =>
    match skipSign "." ts with
    | none => (last, ts)
    | some rest =>
      match tablePart rest with
      | some (name, rest) => tableFrom name bound rest
      | none => tableFrom "" bound rest

/-- Reads the name of a table. -/
def tableName (ts : List Token) : Found := do
  let (first, rest) ← tablePart ts
  let (name, rest) := tableFrom first rest.length rest
  return (.table name, rest)

/-- What remains behind the names in front of the last name of a table. -/
def skipQualifiers : List Token → List Token
  | .word w :: .sign "." :: rest =>
    if mayBeName w then skipQualifiers rest else .word w :: .sign "." :: rest
  | .name _ :: .sign "." :: rest => skipQualifiers rest
  | ts => ts

/-- Reads a function that stands for a table, or the name of a table. -/
def tableSource (inner : Readers) (ts : List Token) : Found :=
  let called (f : String) (rest : List Token) : Found :=
    (inner.function f rest).map fun (r, rest) => ((References.table "").beside r.deeper, rest)
  match skipQualifiers ts with
  | .word f :: .sign "(" :: rest => if mayBeFunction f then called f rest else tableName ts
  | .name f :: .sign "(" :: rest => called f rest
  | _ => tableName ts

/-- Reads a row of values. -/
def row (inner : Readers) : Reader := fun ts =>
  match ts with
  | .sign "(" :: rest => Found.part (closed (listWithin inner.named rest))
  | _ => Found.part ((inner.named ts).within)

/-- Reads rows of values behind the word for them. -/
def rows (inner : Readers) (ts : List Token) : Found :=
  (someWithin inner.row ts).map fun (r, rest) => (r, inner.skipTableAlias joinNames rest)

/-- Reads a query in parentheses behind the opening one, or a table with its joins. -/
def enclosed (inner : Readers) (ts : List Token) : Found := do
  let (r, rest) ← (inner.table ts).required
  let (r, rest) ← inner.continued r rest
  closed (some (r.deeper, rest))

/-- What remains behind remarks on the indexes of a table.  The bound is on their number. -/
def skipHints (g : Grammar) : (bound : Nat) → List Token → Option (List Token)
  | 0, ts => some ts
  | bound + 1, ts =>
    match skipAny (hintWords g) ts with
    | none => some ts
    | some rest => do
      let rest := skipOptional ["INDEX", "KEY"] rest
      let rest := match skipWord "FOR" rest with
        | some behind => behind.drop 1
        | none => rest
      let rest ← match rest with
        | .sign "(" :: .sign ")" :: behind => some behind
        | _ => skipNames rest
      skipHints g bound rest

/-- What remains behind the size of a sample. -/
def skipSize (inner : Readers) (ts : List Token) : Option (List Token) :=
  match ts with
  | .number _ :: _ => (inner.product ts).required.map (·.2)
  | .text _ :: rest => some (skipTexts rest)
  | _ => some ((skipPlaceholder ts).getD ts)

/-- What remains behind the sample that is taken of a table, if one is taken. -/
def skipSample (inner : Readers) (ts : List Token) : Option (List Token) :=
  match skipWord "TABLESAMPLE" ts with
  | none => some ts
  | some rest => do
    let rest := match rest with
      | .word _ :: .sign "(" :: _ => rest.drop 1
      | _ => rest
    let inside ← skipSign "(" rest
    let inside ← inner.skipSize inside
    let inside := ((skipSign "%" inside).or (skipAny ["PERCENT", "ROWS"] inside)).getD inside
    let rest ← skipSign ")" inside
    match skipAny ["REPEATABLE", "SEED"] rest with
    | none => return rest
    | some (.sign "(" :: .number _ :: .sign ")" :: rest) => return rest
    | some _ => none

/-- Reads what follows a table: another name for it, its indexes, a sample of it and the numbers of its
rows. -/
def tableEnd (inner : Readers) (except : List String) (r : References) (ts : List Token) : Found := do
  let ts := inner.skipTableAlias except ((skipSign "*" ts).getD ts)
  let (index, ts) ← match skipWord "INDEXED BY" ts with
    | some rest => (tableName rest).deeper
    | none => some (.none, skipPhrase ["NOT", "INDEXED"] ts)
  let ts ← skipHints inner.grammar ts.length ts
  let ts ← inner.skipSample ts
  match skipWords ["WITH", "ORDINALITY"] ts with
  | some rest => return (r.beside index, inner.skipTableAlias except rest)
  | none => return (r.beside index, ts)

/-- Reads a table, or what stands in its place, with another name for it. -/
def tableExcept (inner : Readers) (except : List String) (ts : List Token) : Found := do
  let ts := skipOptional ["ONLY"] (skipOptional ["LATERAL"] ts)
  let (r, rest) ← match ts with
    | .sign "(" :: rest => inner.enclosed rest
    | .word w :: .sign "(" :: inside =>
      match upper w with
      | "UNNEST" => closed (listWithin inner.equality inside)
      | "VALUES" => inner.rows (.sign "(" :: inside)
      | _ => inner.tableSource ts
    | _ => do
      let (query, rest) ← inner.query ts
      match query with
      | some r => return (r, rest)
      | none => inner.tableSource ts
  inner.tableEnd except r rest

/-- Reads a table that the clauses of a query may follow. -/
def plainTable (inner : Readers) : Reader := fun ts =>
  Found.part (inner.tableExcept joinNames ts)

/-! ## Joins -/

/-- What remains behind the words for a join, and whether it may go without a condition for good. -/
def skipJoin (ts : List Token) : Option (Bool × List Token) :=
  let free := startsWith ["ASOF", "NATURAL", "POSITIONAL"] ts
  let ts := skipOptional ["ASOF", "NATURAL", "POSITIONAL"] ts
  let ts := skipOptional ["LEFT", "RIGHT", "FULL"] ts
  let free := free || startsWith ["CROSS"] ts
  match skipWord "STRAIGHT_JOIN" ts with
  | some rest => some (free, skipOptional ["JOIN"] rest)
  | none =>
    (skipWord "JOIN" (skipOptional ["ANTI", "CROSS", "INNER", "OUTER", "SEMI"] ts)).map fun rest =>
      (free, rest)

/-- Reads the condition of a join, if there is one. -/
def joinCondition (inner : Readers) (ts : List Token) : Option Found :=
  match skipWord "ON" ts with
  | some rest => some (inner.expression rest).optional
  | none =>
    (skipWord "USING" ts).map fun rest =>
      ((skipNames rest).or ((nameAt rest).map (·.2))).map fun rest => (.none, rest)

/-- Reads joins and further tables.  A join without a condition may hold the joins behind it, which then
are conditioned first.  The bound is on the number of joins. -/
def joins (inner : Readers) : (bound : Nat) → List Token → Option (List References × List Token)
  | 0, ts => some ([], ts)
  | bound + 1, ts =>
    match skipSign "," ts, skipJoin ts with
    | some rest, _ =>
      match inner.tableExcept joinNames rest with
      | none => some ([], rest)
      | some (r, rest) => do
        let (more, rest) ← inner.joins bound rest
        return (r.deeper :: more, rest)
    | none, none => some ([], ts)
    | none, some (free, rest) => do
      let (r, rest) ← inner.tableExcept joinNames rest
      match inner.joinCondition rest with
      | some condition =>
        let (condition, rest) ← condition
        let (more, rest) ← inner.joins bound rest
        return ((r.beside condition).deeper :: more, rest)
      | none =>
        let (later, behind) ← if free then some ([], rest) else inner.joins bound rest
        match later, inner.joinCondition behind with
        | _ :: _, some condition =>
          let (condition, behind) ← condition
          let held := (r.beside (References.all later).deeper).beside condition
          let (more, behind) ← inner.joins bound behind
          return (held.deeper :: more, behind)
        | _, _ =>
          let (more, rest) ← inner.joins bound rest
          return (r.deeper :: more, rest)

/-! ## Clauses -/

/-- The clauses of a query. -/
inductive Clause where
  | condition
  | groups
  | groupCondition
  | rowCondition
  | windows
  | order
  | limit
  | offset
  | locks
  deriving DecidableEq, Repr

/-- Reads the groups of rows behind the words for them. -/
def groups (inner : Readers) (ts : List Token) : Found := do
  let ts := skipOptional ["ALL", "DISTINCT"] ts
  let set := fun ts => match skipAny ["CUBE", "ROLLUP", "GROUPING SETS"] ts with
    | some (.sign "(" :: rest) => Found.part (closed (listWithin inner.expression rest))
    | _ => inner.expression ts
  let (r, rest) ← listWithin set ts
  return (r, skipPhrase ["WITH", "ROLLUP"] (skipPhrase ["WITH", "CUBE"] rest))

/-- Reads a window with a name. -/
def namedWindow (inner : Readers) : Reader := fun ts => do
  let (_, rest) ← nameAt ts
  match skipOptional ["AS"] rest with
  | .sign "(" :: inside => (inner.window inside).deeper.part
  | rest => some (some .none, ((nameAt rest).map (·.2)).getD rest)

/-- What remains behind words on how many of the rows are counted. -/
def skipRowWords (ts : List Token) : List Token :=
  skipPhrase ["WITH", "TIES"] (skipOptional ["ONLY"] (skipOptional ["ROW", "ROWS"]
    (skipOptional ["PERCENT"] ts)))

/-- Reads a limit behind the word for it, perhaps with the rows to leave out in front of it. -/
def limit (inner : Readers) (ts : List Token) : Found := do
  let (r, rest) ← (inner.value ts).required
  let rest := skipRowWords ((skipSign "%" rest).getD rest)
  match skipSign "," rest with
  | none => return (r.deeper, rest)
  | some rest =>
    let (s, rest) ← (inner.value rest).required
    return ((r.beside s).deeper, rest)

/-- Reads a limit in other words, behind the first of them. -/
def fetch (inner : Readers) (ts : List Token) : Found :=
  let ts := skipOptional ["FIRST", "NEXT"] ts
  match ts with
  | .number _ :: rest => some (.none, skipRowWords rest)
  | .sign "(" :: rest => (inner.parenthesis rest).map fun (r, rest) => (r.deeper, skipRowWords rest)
  | _ => some (.none, skipRowWords ts)

/-- Reads a lock of rows behind the word for it. -/
def locks (inner : Readers) (ts : List Token) : Found := do
  let rest ← (skipWords ["UPDATE"] ts).or ((skipWords ["SHARE"] ts).or
    ((skipWords ["KEY", "SHARE"] ts).or (skipWords ["NO", "KEY", "UPDATE"] ts)))
  let (r, rest) ← match skipWord "OF" rest with
    | some rest => listWithin inner.plainTable rest
    | none => some (.none, rest)
  return (r, skipPhrase ["SKIP", "LOCKED"] (skipOptional ["NOWAIT"] rest))

/-- Reads the clause at the front, if there is one. -/
def clause (inner : Readers) (ts : List Token) : Option (Option (Clause × References) × List Token) :=
  let read (c : Clause) (f : Found) : Option (Option (Clause × References) × List Token) :=
    f.map fun (r, rest) => (some (c, r), rest)
  let rest := ts.drop 1
  match ts.head?.bind Token.keyword? with
  | some "WHERE" => read .condition (inner.expression rest).within
  | some "GROUP BY" => read .groups (inner.groups rest)
  | some "HAVING" => read .groupCondition (inner.expression rest).within
  | some "QUALIFY" => read .rowCondition (inner.expression rest).within
  | some "WINDOW" => read .windows (listWithin inner.namedWindow rest)
  | some "ORDER BY" => read .order (someWithin inner.ordered rest)
  | some "LIMIT" => read .limit (inner.limit rest)
  | some "FETCH" => read .limit (inner.fetch rest)
  | some "OFFSET" =>
    read .offset ((inner.value rest).within.map fun (r, rest) =>
      (r, skipOptional ["ROW", "ROWS"] rest))
  | some "FOR" => (inner.locks rest).elim (some (none, ts)) fun found => read .locks (some found)
  | some "LOCK" =>
    (skipWords ["IN", "SHARE", "MODE"] rest).elim (some (none, ts)) fun rest =>
      read .locks (some (.none, rest))
  | _ => some (none, ts)

/-- Reads clauses in any order, each at most once.  The bound is on their number. -/
def clauses (inner : Readers) : (bound : Nat) → (seen : List Clause) → List Token →
    Option (List References × List Token)
  | 0, _, ts => some ([], ts)
  | bound + 1, seen, ts => do
    let (found, rest) ← inner.clause ts
    match found with
    | none => return ([], ts)
    | some (c, r) =>
      if seen.contains c then none
      else
        let (more, rest) ← inner.clauses bound (c :: seen) rest
        return (r :: more, rest)

/-- Reads tables beside a query, if the word for them stands at the front.  The bound is on their
number. -/
def laterals (inner : Readers) : (bound : Nat) → List Token → Option (List References × List Token)
  | 0, ts => some ([], ts)
  | bound + 1, ts =>
    match skipWord "LATERAL" ts with
    | none => some ([], ts)
    | some rest => do
      let (r, rest) ← inner.tableExcept joinNames rest
      let (more, rest) ← inner.laterals bound rest
      return (r.deeper :: more, rest)

/-- Reads joins and clauses onto a query or a table. -/
def modified (inner : Readers) (r : References) (ts : List Token) : Found := do
  let (joined, ts) ← inner.joins ts.length ts
  let (beside, ts) ← inner.laterals ts.length ts
  let (found, ts) ← inner.clauses ts.length [] ts
  return (r.beside (References.all (joined ++ beside ++ found)).deeper, ts)

/-! ## Queries -/

/-- Reads the tables behind the word for them. -/
def source (inner : Readers) (ts : List Token) : Found :=
  (inner.tableExcept joinNames ts).deeper

/-- Reads what makes rows distinct, if anything does. -/
def distinction (inner : Readers) (ts : List Token) : Found :=
  let behind := skipOptional ["ALL"] ts
  let all := behind.length < ts.length
  let words := if inner.grammar = .mysql then ["DISTINCT", "DISTINCTROW"] else ["DISTINCT"]
  match skipAny words behind with
  | none => some (.none, behind)
  | some rest =>
    if all then none
    else
      match skipWord "ON" rest with
      | some rest => (inner.row rest).within
      | none => some (.none, rest)

/-- The words on how a query is run, in a grammar. -/
def runWords (g : Grammar) : List String :=
  if g = .mysql then
    ["HIGH_PRIORITY", "SQL_BIG_RESULT", "SQL_BUFFER_RESULT", "SQL_CALC_FOUND_ROWS", "SQL_NO_CACHE",
     "SQL_SMALL_RESULT", "STRAIGHT_JOIN"]
  else []

/-- Reads the table that a query makes, if it makes one. -/
def target (inner : Readers) (ts : List Token) : Found :=
  match skipWord "INTO" ts with
  | none => some (.none, ts)
  | some rest =>
    let rest := skipOptional ["TABLE"] (skipOptional ["TEMPORARY", "TEMP", "UNLOGGED"] rest)
    (inner.tableExcept joinNames rest).deeper

/-- Reads a query behind its first word.  What it selects from may stand in front of it. -/
def selection (inner : Readers) (front : Option References) (ts : List Token) : Found := do
  let (distinct, ts) ← if (ts.drop 1).head? = some (.sign ".") then some (.none, ts)
    else inner.distinction ts
  let ts := ts.dropWhile fun t => startsWith (runWords inner.grammar) [t]
  let (selected, ts) ← partList inner.named ts
  let (made, ts) ← inner.target ts
  let (from?, ts) ← match front, skipWord "FROM" ts with
    | some r, _ => some (r, ts)
    | none, some rest => inner.source rest
    | none, none => some (.none, ts)
  let parts := (References.all ([distinct] ++ selected ++ [made, from?])).deeper
  inner.modified parts ts

/-- Reads the queries that are named in front of another one: their references, and what remains.  The
bound is on their number. -/
def namedQueries (inner : Readers) : (bound : Nat) → List Token →
    Option (List References × List Token)
  | 0, _ => none
  | bound + 1, ts => do
    let (_, rest) ← nameOrText ts
    let rest ← skipWord "AS" ((skipNames rest).getD rest)
    let rest := skipPhrase ["MATERIALIZED"] (skipPhrase ["NOT", "MATERIALIZED"] rest)
    let inside ← skipSign "(" rest
    let (r, rest) ← closed (inner.statement inside).required
    match skipSign "," rest with
    | none => return ([r.deeper], rest)
    | some rest =>
      let (more, rest) ← inner.namedQueries bound rest
      return (r.deeper :: more, rest)

/-- Reads a query in front of which others are named, behind the word for that. -/
def withNamed (inner : Readers) (ts : List Token) : Found := do
  let ts := skipOptional ["RECURSIVE"] ts
  let (named, ts) ← inner.namedQueries ts.length ts
  let (r, rest) ← (inner.statement ts).required
  return (r.beside (References.all named).deeper.deeper, rest)

/-- Reads a query without what is united with it. -/
def single (inner : Readers) (ts : List Token) : Part :=
  match ts.head?.bind Token.keyword? with
  | some "WITH" => Found.part (inner.withNamed (ts.drop 1))
  | some "SELECT" => Found.part (inner.selection none (ts.drop 1))
  | some "FROM" => do
    let (r, rest) ← inner.source (ts.drop 1)
    match skipWord "SELECT" rest with
    | some rest => Found.part (inner.selection (some r) rest)
    | none => Found.part (inner.modified r.deeper rest)
  | some "VALUES" =>
    if (ts.drop 1).head? = some (.sign "(") then Found.part (inner.rows (ts.drop 1)) else absent ts
  | _ => absent ts

/-- Reads a query that may be in parentheses, without what is united with it. -/
def memberOf (inner : Readers) (ts : List Token) : Part :=
  match ts with
  | .sign "(" :: rest => Found.part do
    let (r, rest) ← (inner.member rest).required
    let (r, rest) ← inner.continued r rest
    let (r, rest) ← closed (some (r.deeper, rest))
    return (r, inner.skipTableAlias joinNames rest)
  | _ => inner.single ts

/-- What remains behind the words that unite two queries. -/
def skipUnion (ts : List Token) : Option (List Token) :=
  let ts := skipOptional ["LEFT", "RIGHT", "FULL"] ts
  let ts := skipOptional ["INNER", "OUTER"] ts
  (skipAny ["UNION", "EXCEPT", "INTERSECT"] ts).map fun rest =>
    skipPhrase ["BY", "NAME"] (skipOptional ["DISTINCT", "ALL"] rest)

/-- Reads what is united with a query.  The bound is on the number of queries. -/
def united (inner : Readers) : (bound : Nat) → References → List Token → Found
  | 0, r, ts => some (r, ts)
  | bound + 1, r, ts =>
    match skipUnion ts with
    | none => some (r, ts)
    | some rest => do
      let (s, rest) ← (inner.memberOf rest).required
      inner.united bound (r.beside s).deeper rest

/-- Reads a query with what is united with it. -/
def queryOf (inner : Readers) : Reader := fun ts => do
  let (r, rest) ← inner.single ts
  match r with
  | none => absent rest
  | some r => Found.part (inner.united rest.length r rest)

/-- Reads what is united with a query and the clauses behind that. -/
def continuedOf (inner : Readers) (r : References) (ts : List Token) : Found := do
  let (r, rest) ← inner.united ts.length r ts
  inner.modified r rest

end Readers

end FactModel.Sql
