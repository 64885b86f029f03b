import FactModel.Sql.Definition

/-!
# Statements

What the statements of a text refer to.  A text may hold several statements; all of them are read.
-/

namespace FactModel.Sql

namespace Readers

/-! ## Changing rows -/

/-- Reads a table with the tables joined to it. -/
def joinedTable (inner : Readers) (except : List String) : Reader := fun ts => Found.part do
  let (r, rest) ← inner.tableExcept except ts
  let (joined, rest) ← inner.joins rest.length rest
  return (r.beside (References.all joined).deeper, rest)

/-- Reads a condition on rows, if there is one. -/
def condition (inner : Readers) (ts : List Token) : Found :=
  match skipWord "WHERE" ts with
  | some rest => (inner.expression rest).within
  | none => some (.none, ts)

/-- Reads what is told of changed rows, if anything is. -/
def returned (inner : Readers) (ts : List Token) : Found :=
  match skipWord "RETURNING" ts with
  | none => some (.none, ts)
  | some rest => (listWithin inner.named rest).map fun (r, rest) =>
    match skipWord "INTO" rest with
    | some behind => (r, ((nameAt behind).map (·.2)).getD behind)
    | none => (r, rest)

/-- Reads the order and the number of rows to change. -/
def bounds (inner : Readers) (ts : List Token) : Found := do
  let (order, ts) ← match skipWord "ORDER BY" ts with
    | some rest => someWithin inner.ordered rest
    | none => some (.none, ts)
  let (limit, ts) ← match skipWord "LIMIT" ts with
    | some rest => inner.limit rest
    | none => some (.none, ts)
  return (order.beside limit, ts)

/-- Reads the deletion of rows behind its first word. -/
def deletion (inner : Readers) (ts : List Token) : Found := do
  let (tables, ts) ← if startsWith ["FROM"] ts then some ([], ts)
    else partList inner.plainTable ts
  let (table, ts) ← match skipWord "FROM" ts with
    | some rest => (inner.joinedTable joinNames rest).required
    | none => some (.none, ts)
  let (others, ts) ← match skipWord "USING" ts with
    | some rest => partList (inner.joinedTable joinNames) rest
    | none => some ([], ts)
  let (where?, ts) ← inner.condition ts
  let (told, ts) ← inner.returned ts
  let (bound, ts) ← inner.bounds ts
  return ((References.all (tables ++ [table] ++ others ++ [where?, told, bound])).deeper, ts)

/-- Reads the part of an update at the front, if there is one. -/
def updatePart (inner : Readers) (ts : List Token) : Part :=
  let rest := ts.drop 1
  match ts.head?.bind Token.keyword? with
  | some "SET" =>
    Found.part ((partList inner.equality rest).map fun (found, rest) =>
      (References.all found, rest))
  | some "RETURNING" => Found.part (inner.returned ts)
  | some "FROM" => Found.part (inner.joinedTable joinNames rest).within
  | some "WHERE" => Found.part (inner.condition ts)
  | some "ORDER BY" | some "LIMIT" => Found.part (inner.bounds ts)
  | _ => absent ts

/-- Reads the parts of an update.  The bound is on their number. -/
def updateParts (inner : Readers) : (bound : Nat) → List Token →
    Option (List References × List Token)
  | 0, ts => some ([], ts)
  | bound + 1, ts => do
    let (r, rest) ← inner.updatePart ts
    match r with
    | none => return ([], ts)
    | some r =>
      let (more, rest) ← inner.updateParts bound rest
      return (r :: more, rest)

/-- Reads an update of rows behind its first word. -/
def update (inner : Readers) (ts : List Token) : Found := do
  let (table, ts) ← (inner.joinedTable ("SET" :: joinNames) ts).required
  let (parts, ts) ← inner.updateParts ts.length ts
  return ((References.all (table :: parts)).deeper, ts)

/-- Reads what happens to rows that are there already. -/
def conflict (inner : Readers) (ts : List Token) : Found :=
  match skipWords ["ON", "CONFLICT"] ts, skipWords ["ON", "DUPLICATE", "KEY", "UPDATE"] ts with
  | some rest, _ => do
    let rest := (skipNames rest).getD rest
    let rest ← skipWord "DO" rest
    match skipWord "NOTHING" rest with
    | some rest => return (.none, rest)
    | none =>
      let rest ← skipWords ["UPDATE", "SET"] rest
      let (r, rest) ← listWithin inner.equality rest
      let (where?, rest) ← inner.condition rest
      return (r.beside where?.deeper, rest)
  | none, some rest => listWithin inner.equality (skipOptional ["SET"] rest)
  | none, none => some (.none, ts)

/-- Reads the insertion of rows behind its first word. -/
def insertion (inner : Readers) (ts : List Token) : Found := do
  let ts := skipOptional ["IGNORE"] (skipOptional ["OVERWRITE"] ts)
  let ts := match skipWord "OR" ts with
    | some rest => skipOptional ["ABORT", "FAIL", "IGNORE", "REPLACE", "ROLLBACK"] rest
    | none => ts
  let ts := skipOptional ["TABLE"] (skipOptional ["INTO"] ts)
  let (table, ts) ← tableName ts
  let ts := if startsWith ["AS"] ts then inner.skipTableAlias joinNames ts else ts
  let (table, ts) := match skipNames ts with
    | some rest => (table.deeper, rest)
    | none => (table, ts)
  let (rows, ts) ← match skipWords ["DEFAULT", "VALUES"] ts with
    | some rest => some (.none, rest)
    | none => do
      let (r, rest) ← inner.memberOf ts
      match r with
      | some r => inner.continued r rest
      | none => some (.none, rest)
  let (clash, ts) ← inner.conflict ts
  let (told, ts) ← inner.returned ts
  return ((References.all [table, rows, clash, told]).deeper, ts)

/-! ## Merging rows -/

/-- Reads what is done with a row of a merge. -/
def mergeAction (inner : Readers) (ts : List Token) : Found :=
  let rest := ts.drop 1
  match ts.head?.bind Token.keyword? with
  | some "INSERT" =>
    match skipSign "*" rest with
    | some rest => some (.none, rest)
    | none => do
      let (columns, rest) ← match rest with
        | .sign "(" :: _ => (inner.row rest).required
        | _ => some (.none, skipOptional ["ROW"] rest)
      let (values, rest) ← match skipWord "VALUES" rest with
        | some rest => (inner.row rest).required
        | none => some (.none, rest)
      return ((columns.beside values).deeper, rest)
  | some "UPDATE" =>
    match skipSign "*" rest with
    | some rest => some (.none, rest)
    | none => (skipWord "SET" rest).bind (listWithin inner.equality)
  | some "DELETE" => some (.none, rest)
  | some "DO" => (skipWord "NOTHING" rest).map fun rest => (.none, rest)
  | _ => none

/-- Reads the cases of a merge.  The bound is on their number. -/
def mergeCases (inner : Readers) : (bound : Nat) → List Token →
    Option (List References × List Token)
  | 0, ts => some ([], ts)
  | bound + 1, ts =>
    match skipWord "WHEN" ts with
    | none => some ([], ts)
    | some rest => do
      let rest := skipOptional ["MATCHED"] (skipOptional ["NOT"] rest)
      let rest := skipPhrase ["BY", "SOURCE"] (skipPhrase ["BY", "TARGET"] rest)
      let (condition, rest) ← match skipWord "AND" rest with
        | some rest => (inner.expression rest).required
        | none => some (.none, rest)
      let (action, rest) ← inner.mergeAction (skipOptional ["THEN"] rest)
      let (more, rest) ← inner.mergeCases bound rest
      return ((condition.beside action).deeper :: more, rest)

/-- Reads a merge of rows behind its first word. -/
def merging (inner : Readers) (ts : List Token) : Found := do
  let (target, ts) ← inner.tableExcept joinNames (skipOptional ["INTO"] ts)
  let (used, ts) ← inner.tableExcept joinNames (skipOptional ["USING"] ts)
  let (condition, ts) ← (inner.joinCondition ts).getD none
  let (cases, ts) ← inner.mergeCases ts.length ts
  let (told, ts) ← inner.returned ts
  if cases.isEmpty then none
  else
    let parts := [target, used, condition, (References.all cases).deeper, told]
    return ((References.all parts).deeper, ts)

/-! ## Other statements -/

/-- Statements that say nothing of columns and tables. -/
def silentWords : List String :=
  ["CALL", "EXECUTE", "EXPLAIN", "FETCH", "KILL", "LOAD", "OPTIMIZE", "PREPARE", "RENAME", "SHOW",
   "VACUUM"]

/-- Further statements of a grammar that say nothing of columns and tables. -/
def ownSilentWords : Grammar → List String
  | .postgres => ["DECLARE", "DO", "EXEC", "REFRESH", "REINDEX", "RESET"]
  | .mysql => ["LOCK TABLES", "REPLACE", "UNLOCK TABLES"]
  | .sqlite => ["ATTACH", "DETACH", "REPLACE"]
  | .plain => []

/-- What remains behind the words that begin a transaction. -/
def beginning (ts : List Token) : Found :=
  let ts := skipOptional ["DEFERRED", "EXCLUSIVE", "IMMEDIATE"] ts
  let ts := skipOptional ["TRANSACTION", "WORK"] ts
  let isMode (t : Token) : Bool := t == .sign "," || t.keyword?.any fun w => mayBeName w || w == "NOT"
  some (.none, ts.dropWhile isMode)

/-- What remains behind the words that end a transaction. -/
def ending (ts : List Token) : Found :=
  let ts := skipOptional ["TRANSACTION", "WORK"] ts
  let ts := match skipWord "TO" ts with
    | some rest =>
      let rest := skipOptional ["SAVEPOINT"] rest
      ((nameAt rest).map (·.2)).getD rest
    | none => ts
  match skipWord "AND" ts with
  | some rest => some (.none, skipOptional ["CHAIN"] (skipOptional ["NO"] rest))
  | none => some (.none, ts)

/-- Reads a setting: what is set, and what it is set to.  A name that it is set to is no column. -/
def setting (inner : Readers) : Reader := fun ts => do
  let (o, rest) ← inner.simple (skipOptional ["GLOBAL", "LOCAL", "SESSION"] ts)
  let o ← o
  let rest ← (skipSigns ["=", ":="] rest).or (skipWord "TO" rest)
  match rest with
  | [.word _] | [.name _] => some (some o.references.deeper.deeper, [])
  | _ =>
    let (r, rest) ← (inner.statement rest).required
    some (some (o.references.beside r).deeper.deeper, rest)

/-- Reads settings behind the word for them.  What cannot be read is taken as it is. -/
def settings (inner : Readers) (ts : List Token) : Found :=
  match listWithin inner.setting ts with
  | some (r, []) => some (r, [])
  | _ => silentStatement

/-- Reads the description of a table or of another statement, behind the word for it. -/
def description (inner : Readers) (ts : List Token) : Found :=
  if startsWith ["SELECT", "WITH", "INSERT", "UPDATE", "DELETE", "FROM"] ts then
    (inner.statement ts).within
  else (tableName ts).deeper

/-- Reads an expression or a query. -/
def question (inner : Readers) (ts : List Token) : Part := do
  let (r, rest) ← inner.named ts
  match r with
  | some r =>
    if opensQuery ts ∨ (skipUnion rest).isSome then Found.part (inner.continuedOf r rest)
    else some (some r, rest)
  | none =>
    let (r, rest) ← inner.queryOf ts
    match r with
    | some r => Found.part (inner.modified r rest)
    | none => absent rest

/-- Reads a statement. -/
def statementOf (inner : Readers) : Reader := fun ts =>
  let rest := ts.drop 1
  match ts.head?.bind Token.keyword? with
  | some "DELETE" => Found.part (inner.deletion rest)
  | some "UPDATE" => Found.part (inner.update rest)
  | some "INSERT" => Found.part (inner.insertion rest)
  | some "MERGE" => Found.part (inner.merging rest)
  | some "DROP" => Found.part (removal rest)
  | some "CREATE" => Found.part (inner.making rest)
  | some "ALTER" => Found.part (inner.alteration rest)
  | some "COMMENT" => Found.part (inner.commentary rest)
  | some "GRANT" => Found.part (inner.granting "TO" rest)
  | some "REVOKE" => Found.part (inner.granting "FROM" rest)
  | some "COPY" => Found.part (inner.copying rest)
  | some "ANALYZE" => Found.part (analysis rest)
  | some "TRUNCATE" =>
    if rest.head? = some (.sign "(") then inner.question ts else Found.part (emptying rest)
  | some "BEGIN" => Found.part (beginning rest)
  | some "COMMIT" | some "ROLLBACK" => Found.part (ending rest)
  | some "SET" => Found.part (inner.settings rest)
  | some "USE" => Found.part (tableName rest).deeper
  | some "PRAGMA" => Found.part (inner.named rest).within
  | some "DESC" | some "DESCRIBE" => Found.part (inner.description rest)
  | some word =>
    if word = "EXPLAIN" ∧ inner.grammar = .mysql then Found.part (inner.description rest)
    else if word = "START" ∧ inner.grammar = .mysql then Found.part (beginning rest)
    else if word = "END" ∧ inner.grammar = .postgres then Found.part (ending rest)
    else if (silentWords ++ ownSilentWords inner.grammar).contains word then Found.part silentStatement
    else inner.question ts
  | none => inner.question ts

/-! ## Reading statements -/

/-- Readers that read nothing. -/
def bottom (g : Grammar) : Readers :=
  { grammar := g, expression := fun _ => none, equality := fun _ => none, value := fun _ => none
    unary := fun _ => none, query := fun _ => none, member := fun _ => none, table := fun _ => none
    statement := fun _ => none, continued := fun _ _ => none }

/-- The readers whose nested parts are read by given readers. -/
def around (inner : Readers) : Readers :=
  { grammar := inner.grammar, expression := inner.disjunction, equality := inner.equalityOf
    value := inner.valueOf, unary := inner.signedOperand, query := inner.queryOf
    member := inner.memberOf, table := inner.plainTable, statement := inner.statementOf
    continued := inner.continuedOf }

/-- The readers for parts nested up to a depth. -/
def upTo (g : Grammar) : (depth : Nat) → Readers
  | 0 => bottom g
  | depth + 1 => (upTo g depth).around

end Readers

/-- The statements of a text: its tokens cut at semicolons.  A semicolon at the very end begins no
further statement. -/
def statements : List Token → List (List Token)
  | [] => [[]]
  | [.sign ";"] => [[]]
  | t :: ts =>
    if t = .sign ";" then [] :: statements ts
    else
      match statements ts with
      | [] => [[t]]
      | first :: rest => (t :: first) :: rest

/-- The references of a statement, which may be empty; none when it cannot be read to its end. -/
def statementReferences (g : Grammar) (ts : List Token) : Option References :=
  if ts = [] then some .none
  else
    match (Readers.upTo g (2 * ts.length + 4)).statement ts with
    | some (some r, []) => some r
    | _ => none

/-- The references of all statements of a text; none when one of them cannot be read or the first one
is empty. -/
def references (g : Grammar) (ts : List Token) : Option References :=
  match statements ts with
  | [] :: _ => none
  | found => (found.mapM (statementReferences g)).map References.all

end FactModel.Sql
