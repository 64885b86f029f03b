import FactModel.Sql.Signature
import FactModel.Sql.Word

/-!
# Expressions of queries

What an expression refers to.  Operators bind in levels, from those that join conditions down to
signs; operands are values, columns, functions and whatever stands in parentheses.
-/

namespace FactModel.Sql

/-- The readers of the parts that may hold each other. -/
structure Readers where
  grammar : Grammar
  /-- An expression without another name for it. -/
  expression : Reader
  /-- An expression of equalities and whatever binds tighter. -/
  equality : Reader
  /-- An expression of values, without conditions. -/
  value : Reader
  /-- An operand with its signs. -/
  unary : Reader
  /-- A query that is not in parentheses. -/
  query : Reader
  /-- A query that may be in parentheses, without what is united with it. -/
  member : Reader
  /-- A table or what stands in its place. -/
  table : Reader
  /-- Any statement. -/
  statement : Reader
  /-- What is united with a query and the clauses behind it. -/
  continued : References → List Token → Found

/-! ## Types -/

/-- What remains behind the parameters of a type. -/
def skipParameters : (bound : Nat) → List Token → Option (List Token)
  | 0, _ => none
  | bound + 1, ts =>
    match ts with
    | .sign ")" :: rest => some rest
    | .sign "," :: rest => skipParameters bound rest
    | .number _ :: rest => skipParameters bound rest
    | .text _ :: rest => skipParameters bound rest
    | .word _ :: rest => skipParameters bound rest
    | _ => none

/-- What remains behind the brackets of an array type. -/
def skipBrackets : List Token → List Token
  | .sign "[" :: .sign "]" :: rest => skipBrackets rest
  | .sign "[" :: .number _ :: .sign "]" :: rest => skipBrackets rest
  | ts => ts

/-- What remains behind the further names of a type. -/
def skipDotted : List Token → List Token
  | .sign "." :: .word _ :: rest => skipDotted rest
  | .sign "." :: .name _ :: rest => skipDotted rest
  | ts => ts

/-- What remains behind the name of a type.  Some grammars have types of any name. -/
def skipTypeName (g : Grammar) (ts : List Token) : Option (List Token) :=
  match skipAny typeWords ts with
  | some rest => some rest
  | none =>
    if g = .mysql ∨ g = .sqlite then none else (nameAt ts).map fun (_, rest) => skipDotted rest

/-- What remains behind a type. -/
def skipType (g : Grammar) (ts : List Token) : Option (List Token) := do
  let rest ← skipTypeName g ts
  let rest := match skipSign "(" rest with
    | some inside => (skipParameters (inside.length + 1) inside).getD rest
    | none => rest
  let rest := skipOptional ["UNSIGNED", "SIGNED", "ZEROFILL"] rest
  let rest := skipPhrase ["WITH", "TIME", "ZONE"] (skipPhrase ["WITHOUT", "TIME", "ZONE"] rest)
  let rest := match skipWord "CHARACTER SET" rest with
    | some behind => ((nameOrText behind).map (·.2)).getD rest
    | none => rest
  return skipBrackets rest

/-! ## Names given to expressions -/

namespace Readers

/-- What remains behind one or more texts. -/
def skipTexts : List Token → List Token
  | .text _ :: rest => skipTexts rest
  | ts => ts

/-- Whether a clause that limits rows stands at the front. -/
def limits (inner : Readers) (ts : List Token) : Bool :=
  beginsLimit ts && (inner.value (ts.drop 1)).required.isSome

/-- Reads another name for an expression, if there is one. -/
def alias? (inner : Readers) (ts : List Token) : Option (List Token) :=
  if inner.limits ts then none
  else if inner.grammar = .mysql ∨ inner.grammar = .sqlite then (nameOrText ts).map (·.2)
  else (nameAt ts).map (·.2)

/-- Reads another name for what has been read so far.  Behind the word for it the name may be almost
anything, or missing. -/
def withAlias (inner : Readers) (r : Option References) (ts : List Token) : Part :=
  match skipWord "AS" ts with
  | some rest =>
    match (skipNames rest).or ((anyName rest).map (·.2)) with
    | some rest => r.map fun r => (some r.deeper, rest)
    | none => some (r, rest)
  | none =>
    match inner.alias? ts with
    | some rest => r.map fun r => (some r.deeper, rest)
    | none => some (r, ts)

/-- What remains behind names to which something is assigned. -/
def skipTargets : List Token → List Token
  | .word w :: .sign ":=" :: rest =>
    if mayBeName w then skipTargets rest else .word w :: .sign ":=" :: rest
  | .name _ :: .sign ":=" :: rest => skipTargets rest
  | ts => ts

/-- Reads an expression that may be assigned another one.  A name to which something is assigned is no
column. -/
def assignment (inner : Readers) : Reader := fun ts =>
  let behind := skipTargets ts
  if behind.length < ts.length then (chain (skipSign ":=") inner.expression behind).within.part
  else chain (skipSign ":=") inner.expression ts

/-- Reads an expression with perhaps another name for it. -/
def named (inner : Readers) : Reader := fun ts => do
  let (r, rest) ← inner.assignment ts
  inner.withAlias r rest

/-- Reads an expression that another name follows only behind the word for it. -/
def explicitlyNamed (inner : Readers) : Reader := fun ts => do
  let (r, rest) ← inner.assignment ts
  if startsWith ["AS"] rest then inner.withAlias r rest else some (r, rest)

/-! ## Arguments -/

/-- Reads an expression by which rows are ordered. -/
def ordered (inner : Readers) : Reader := fun ts => do
  let (r, rest) ← inner.expression ts
  match r with
  | none => absent rest
  | some r =>
    let rest := skipOptional ["DESC"] (skipOptional ["ASC"] rest)
    let rest := skipPhrase ["NULLS", "LAST"] (skipPhrase ["NULLS", "FIRST"] rest)
    some (some r.deeper, rest)

/-- Reads an order of rows onto what has been read so far. -/
def withOrder (inner : Readers) (r : References) (ts : List Token) : Found :=
  match skipWord "ORDER BY" ts with
  | none => some (r, ts)
  | some rest => (someWithin inner.ordered rest).map fun (order, rest) => (r.deeper.beside order, rest)

/-- Reads a limit of rows onto what has been read so far. -/
def withLimit (inner : Readers) (r : References) (ts : List Token) : Found :=
  match skipWord "LIMIT" ts with
  | none => some (r, ts)
  | some rest => (inner.value rest).required.map fun (limit, rest) => ((r.beside limit).deeper, rest)

/-- What remains behind a word on how missing values are treated. -/
def skipNulls (ts : List Token) : List Token :=
  skipPhrase ["RESPECT", "NULLS"] (skipPhrase ["IGNORE", "NULLS"] ts)

/-- The names in front of the arrow of a function that is an argument, and what remains behind it. -/
def lambdaNames? (ts : List Token) : Option (List String × List Token) := do
  let (names, rest) ← match skipSign "(" ts with
    | none => (nameAt ts).map fun (name, rest) => ([name], rest)
    | some inside => do
      let name := fun ts => some ((nameAt ts).map (·.1), ((nameAt ts).map (·.2)).getD ts)
      let (names, rest) ← partList name inside
      (skipSign ")" rest).map fun rest => (names, rest)
  let rest ← skipSign "->" rest
  return (names, rest)

/-- What remains behind the name of an argument. -/
def skipArgumentName? : List Token → Option (List Token)
  | .word _ :: .sign "=>" :: rest => some rest
  | .name _ :: .sign "=>" :: rest => some rest
  | _ => none

/-- Reads an argument of a function, which may have another name or not. -/
def argument (inner : Readers) (mayHaveName : Bool) : Reader := fun ts =>
  match lambdaNames? ts, skipArgumentName? ts, skipWord "DISTINCT" ts with
  | some (names, rest), _, _ =>
    Found.part ((inner.expression rest).within.map fun (r, rest) => (r.withoutColumns names, rest))
  | none, some rest, _ => (inner.expression rest).within.part
  | none, none, some rest => (someWithin inner.expression rest).bind finish
  | none, none, none => do
    let (r, rest) ← firstOf
      [inner.query, if mayHaveName then inner.explicitlyNamed else inner.assignment] ts
    match r with
    | none => absent rest
    | some r => finish (r, rest)
where
  /-- Reads what may follow an argument. -/
  finish : References × List Token → Part
    | (r, rest) => do
      let (r, rest) ← inner.withOrder r (skipNulls rest)
      (inner.withLimit r rest).part

/-- An argument of a function. -/
structure Argument where
  references : References
  /-- Whether the argument can name a unit of time: it is a name alone, or a week that begins on a named
  day. -/
  namesUnit : Bool

/-- What remains behind a name that can be a unit of time. -/
def skipUnit? (ts : List Token) : Option (List Token) :=
  match ts with
  | .word w :: .sign "(" :: rest =>
    if upper w = "WEEK" then (nameAt rest).bind fun (_, rest) => skipSign ")" rest else none
  | _ => (nameAt ts).map (·.2)

/-- Reads an argument, and whether it can name a unit of time. -/
def unitOrArgument (inner : Readers) (mayHaveName : Bool) (ts : List Token) :
    Option (Option Argument × List Token) :=
  (inner.argument mayHaveName ts).map fun (r, rest) =>
    (r.map fun r => { references := r, namesUnit := skipUnit? ts = some rest }, rest)

/-- The references of the arguments of a known function. -/
def looked (s : Signature) (found : List Argument) : References :=
  let places := s.order.getD (List.range found.length)
  References.all (places.filterMap fun place =>
    found[place]?.bind fun a =>
      if s.unit = some place ∧ a.namesUnit then none
      else some (Nat.repeat References.deeper s.depth a.references))

/-! ## Windows -/

/-- What remains behind one bound of a window. -/
def windowBound (inner : Readers) (ts : List Token) : Found :=
  match skipPhrase ["CURRENT", "ROW"] ts, skipAny ["UNBOUNDED"] ts with
  | _, some rest => some (.none, skipOptional ["PRECEDING", "FOLLOWING"] rest)
  | behind, none =>
    if behind.length < ts.length then some (.none, behind)
    else
      (inner.value ts).optional.map fun (r, rest) =>
        (r, skipOptional ["PRECEDING", "FOLLOWING"] rest)

/-- What remains behind a word on which rows near the own one are left out of a window. -/
def skipExclusion (ts : List Token) : List Token :=
  match skipWord "EXCLUDE" ts with
  | none => ts
  | some rest =>
    skipPhrase ["NO", "OTHERS"] (skipPhrase ["CURRENT", "ROW"] (skipOptional ["GROUP", "TIES"] rest))

/-- Reads which rows belong to a window. -/
def windowFrame (inner : Readers) (ts : List Token) : Found :=
  match skipAny ["ROWS", "RANGE"] ts with
  | none => some (.none, ts)
  | some rest => do
    let (first, rest) ← inner.windowBound (skipOptional ["BETWEEN"] rest)
    match skipWord "AND" rest with
    | none => return (first.deeper, skipExclusion rest)
    | some rest =>
      let (last, rest) ← inner.windowBound rest
      return ((first.beside last).deeper, skipExclusion rest)

/-- Reads a window in parentheses, behind the opening one. -/
def window (inner : Readers) (ts : List Token) : Found := do
  let ts := if startsWith ["ROWS", "RANGE"] ts then ts else ((nameAt ts).map (·.2)).getD ts
  let (parts, ts) ← match skipWord "PARTITION BY" ts with
    | some rest => partList inner.expression rest
    | none => some ([], ts)
  let (order, ts) ← match skipWord "ORDER BY" ts with
    | some rest => someWithin inner.ordered rest
    | none => some (.none, ts)
  let (frame, ts) ← inner.windowFrame ts
  closed (some (References.all (parts ++ [order, frame]), ts))

/-- Reads which values a function is for, behind its arguments. -/
def withFilter (inner : Readers) (r : References) (ts : List Token) : Found :=
  match skipWord "FILTER" ts with
  | some (.sign "(" :: rest) =>
    closed ((inner.expression (skipOptional ["WHERE"] rest)).within.map fun (condition, rest) =>
      ((r.beside condition).deeper, rest))
  | _ => some (r, ts)

/-- Reads the order of a group behind the arguments of a function. -/
def withGroup (inner : Readers) (r : References) (ts : List Token) : Found :=
  match skipWords ["WITHIN", "GROUP"] ts with
  | some (.sign "(" :: rest) =>
    match skipWord "ORDER BY" rest with
    | some rest =>
      closed ((someWithin inner.ordered rest).map fun (order, rest) =>
        ((r.beside order).deeper, rest))
    | none => none
  | _ => some (r, ts)

/-- Reads what may follow a function: an order, a condition, a window. -/
def windowed (inner : Readers) (r : References) (ts : List Token) : Found := do
  let (r, ts) ← inner.withGroup r ts
  let (r, ts) ← inner.withFilter r ts
  let ts := skipNulls ts
  match skipWord "OVER" ts with
  | none => return (r, ts)
  | some (.sign "(" :: rest) =>
    let (w, rest) ← inner.window rest
    return ((r.beside w).deeper, rest)
  | some rest => return (r.deeper, ((nameAt rest).map (·.2)).getD rest)

/-! ## Intervals of time -/

/-- Whether the text of an interval names its unit. -/
def hasUnit (text : String) : Bool :=
  text.toList.any Char.isDigit && text.toList.any Char.isAlpha

/-- The signs with which the length of an interval may begin. -/
def lengthSigns : List String :=
  ["(", "+", "-", "~", "?", ":", "@", "$"]

/-- What remains behind the unit of a length, perhaps with the smallest unit that counts. -/
def skipTimeUnit (ts : List Token) : List Token :=
  let ts := if startsWith ["AS"] ts then ts else ((anyName ts).map (·.2)).getD ts
  match skipWord "TO" ts with
  | some rest => ((anyName rest).map (·.2)).getD rest
  | none => ts

/-- Reads the length of an interval of time with its unit, unless a text names the unit already. -/
def timeSpan (inner : Readers) (ts : List Token) : Part :=
  let measured : Part :=
    match startsWith ["IS", "ROWS"] ts, inner.value ts with
    | false, some (some r, rest) => some (some r, skipTimeUnit rest)
    | _, _ => absent ts
  match ts with
  | .text _ :: .text _ :: rest => some (some .none, skipTimeUnit (skipTexts rest))
  | .text value :: rest => some (some .none, if hasUnit value then rest else skipTimeUnit rest)
  | .sign mark :: _ => if lengthSigns.contains mark then measured else absent ts
  | _ => measured

/-- Reads further lengths onto an interval.  The bound is on their number. -/
def timeSpans (inner : Readers) : (bound : Nat) → References → List Token → Found
  | 0, r, ts => some (r, ts)
  | bound + 1, r, ts =>
    match (skipSign "+" ts).getD ts with
    | .text value :: rest => more bound r (.text value :: rest)
    | .number digits :: rest => more bound r (.number digits :: rest)
    | _ => some (r, ts)
where
  /-- Reads the length at the front and those behind it. -/
  more (bound : Nat) (r : References) (ts : List Token) : Found := do
    let (next, rest) ← (inner.timeSpan ts).required
    inner.timeSpans bound (r.beside next.deeper).deeper rest

/-- Reads an interval of time behind its first word.  Without a length the word is a name. -/
def interval (inner : Readers) (ts : List Token) : Part := do
  let (r, rest) ← inner.timeSpan ts
  match r with
  | some r => (inner.timeSpans rest.length r.deeper rest).part
  | none => absent ts

/-! ## Functions of a special form -/

/-- Reads the cases of a choice.  The bound is on their number. -/
def cases (inner : Readers) : (bound : Nat) → List Token → Option (List References × List Token)
  | 0, ts => some ([], ts)
  | bound + 1, ts =>
    match skipWord "WHEN" ts with
    | none => some ([], ts)
    | some rest => do
      let (condition, rest) ← (inner.expression rest).required
      let (result, rest) ← (inner.expression (skipOptional ["THEN"] rest)).required
      let (more, rest) ← inner.cases bound rest
      return ((condition.beside result).deeper :: more, rest)

/-- Reads a choice between cases behind its first word. -/
def choice (inner : Readers) (ts : List Token) : Found := do
  let (subject, rest) ← (inner.expression ts).optional
  let (branches, rest) ← inner.cases rest.length rest
  let (otherwise, rest) ← match skipWord "ELSE" rest with
    | some rest => (inner.expression rest).optional
    | none => some (.none, rest)
  let rest ← skipWord "END" rest
  if branches.isEmpty then none
  else return ((References.all (subject :: branches ++ [otherwise])).deeper, rest)

/-- Reads a choice between two cases without parentheses, behind its first word.  Without a condition
the word is a name. -/
def branch (inner : Readers) (ts : List Token) : Part := do
  let (condition, rest) ← inner.expression ts
  match condition with
  | none => absent ts
  | some condition =>
    let (result, rest) ← (inner.expression (skipOptional ["THEN"] rest)).required
    let (otherwise, rest) ← match skipWord "ELSE" rest with
      | some rest => (inner.expression rest).optional
      | none => some (.none, rest)
    some (some ((condition.beside result).beside otherwise).deeper, skipOptional ["END"] rest)

/-- Reads the change of a value to a type, behind the opening parenthesis. -/
def cast (inner : Readers) (ts : List Token) : Found := do
  let (r, rest) ← (inner.expression ts).required
  match skipWord "AS" rest with
  | some rest =>
    let rest ← skipType inner.grammar rest
    let rest := match (skipWord "FORMAT" rest).or (skipSign "," rest) with
      | some (.text _ :: behind) => behind
      | _ => rest
    let rest ← skipSign ")" rest
    return (r.deeper, rest)
  | none =>
    match skipSign "," rest with
    | some (.text _ :: rest) => closed (some (r.deeper, rest))
    | _ => none

/-- Reads the change of a value to a type or a character set, behind the opening parenthesis. -/
def convert (inner : Readers) (ts : List Token) : Found := do
  let (r, rest) ← (inner.value ts).required
  match skipWord "USING" rest, skipSign "," rest with
  | some rest, _ =>
    let (_, rest) ← nameOrText rest
    closed (some (r.deeper, rest))
  | none, some rest =>
    match skipType inner.grammar rest with
    | some rest => closed (some (r.deeper, rest))
    | none => none
  | none, none => none

/-- Reads the extraction of a part of a date, behind the opening parenthesis. -/
def extract (inner : Readers) (ts : List Token) : Found := do
  let (_, rest) ← anyName ts
  let rest ← (skipWord "FROM" rest).or (skipSign "," rest)
  closed (inner.value rest).within

/-- Reads a date and the interval by which it is moved, behind the opening parenthesis. -/
def dateStep (inner : Readers) (ts : List Token) : Found := do
  let (date, rest) ← (inner.argument false ts).required
  let rest ← skipWord "INTERVAL" (← skipSign "," rest)
  let (length, rest) ← (inner.timeSpan rest).required
  closed (some ((date.beside length).deeper, rest))

/-- Reads a value behind a comma or a word, if one of them stands at the front. -/
def behind (inner : Readers) (word : String) (ts : List Token) : Part :=
  match (skipSign "," ts).or (skipWord word ts) with
  | some rest => inner.value rest
  | none => absent ts

/-- Reads values behind words.  The bound is on their number. -/
def valuesBehind (inner : Readers) (words : List String) : (bound : Nat) → List Token →
    Option (List References × List Token)
  | 0, ts => some ([], ts)
  | bound + 1, ts =>
    match skipAny words ts with
    | none => some ([], ts)
    | some rest => do
      let (r, rest) ← (inner.value rest).required
      let (more, rest) ← inner.valuesBehind words bound rest
      return (r :: more, rest)

/-- Reads the cutting of a text, behind the opening parenthesis. -/
def cut (inner : Readers) (ts : List Token) : Found := do
  let (found, rest) ← partList inner.value ts
  let (bounds, rest) ← inner.valuesBehind ["FROM", "FOR"] rest.length rest
  let all := found ++ bounds
  if all.isEmpty ∨ 3 < all.length then none
  else closed (some ((References.all all).deeper, rest))

/-- Reads the trimming of a text, behind the opening parenthesis.  A text behind the word for it is looked
at first. -/
def trim (inner : Readers) (ts : List Token) : Found := do
  let (first, rest) ← inner.value (skipOptional ["BOTH", "LEADING", "TRAILING"] ts)
  let inverted := startsWith ["FROM"] rest
  let (second, rest) ← inner.behind "FROM" rest
  let (rule, rest) ← match skipWord "COLLATE" rest with
    | some rest => inner.value rest
    | none => absent rest
  let (text, marks) := if inverted then (second, first) else (first, second)
  let text ← text
  closed (some ((References.all (text :: marks.toList ++ rule.toList)).deeper, rest))

/-- Reads the search for a text in another one, behind the opening parenthesis.  The other one is looked
at first. -/
def position (inner : Readers) (ts : List Token) : Found := do
  let (found, rest) ← partList inner.value ts
  let (texts, rest) ← match found, skipWord "IN" rest with
    | wanted :: _, some rest =>
      (inner.value rest).required.map fun (text, rest) => ([text, wanted], rest)
    | wanted :: text :: more, none => some ([text, wanted] ++ more.take 1, rest)
    | _, _ => none
  closed (some ((References.all texts).deeper, rest))

/-- Reads the replacement of a part of a text, behind the opening parenthesis. -/
def replacement (inner : Readers) (ts : List Token) : Found := do
  let (text, rest) ← (inner.value ts).required
  let (new, rest) ← (inner.behind "PLACING" rest).required
  let (start, rest) ← (inner.behind "FROM" rest).required
  let (length, rest) ← inner.behind "FOR" rest
  closed (some ((References.all (text :: new :: start :: length.toList)).deeper, rest))

/-- Reads the values that a function groups into a text, with what stands between them, behind the opening
parenthesis. -/
def separated (inner : Readers) (ts : List Token) : Found := do
  let (found, rest) ← partList (inner.argument false) ts
  let rest ← match skipWord "SEPARATOR" rest with
    | some rest => (inner.unary rest).required.map (·.2)
    | none => some rest
  if found.isEmpty then none else closed (some ((References.all found).deeper, rest))

/-- Reads a number that is rounded, perhaps to a unit, behind the opening parenthesis. -/
def rounded (inner : Readers) (word : String) (ts : List Token) : Found := do
  let (found, rest) ← partList (inner.unitOrArgument false) ts
  let rest := match skipWord "TO" rest with
    | some rest => ((anyName rest).map (·.2)).getD rest
    | none => rest
  let all := match signature? inner.grammar word with
    | some s => looked s found
    | none => References.all (found.map Argument.references)
  closed (some (all.deeper, rest))

/-- Reads characters by their numbers, behind the opening parenthesis. -/
def characters (inner : Readers) (ts : List Token) : Found := do
  let (found, rest) ← partList inner.assignment ts
  let rest := match skipWord "USING" rest with
    | some rest => ((anyName rest).map (·.2)).getD rest
    | none => rest
  if found.isEmpty then none else closed (some ((References.all found).deeper, rest))

/-- Reads a text in a form of a given name, behind the opening parenthesis. -/
def normalized (inner : Readers) (ts : List Token) : Found := do
  let (r, rest) ← (inner.value ts).required
  match skipSign "," rest with
  | some rest => closed (some (r.deeper, ((nameAt rest).map (·.2)).getD rest))
  | none => closed (some (r.deeper, rest))

/-- Reads an element with a name, behind the opening parenthesis. -/
def element (inner : Readers) (ts : List Token) : Found := do
  let (_, rest) ← nameAt (← skipWord "NAME" ts)
  match skipSign "," rest with
  | some rest => closed (listWithin inner.named rest)
  | none => closed (some (.none, rest))

/-- What remains behind the way in which texts are searched. -/
def skipSearchMode (ts : List Token) : List Token :=
  skipPhrase ["WITH", "QUERY", "EXPANSION"] (skipPhrase ["IN", "BOOLEAN", "MODE"]
    (skipPhrase ["IN", "NATURAL", "LANGUAGE", "MODE"] ts))

/-- Reads a search for words in columns, behind the opening parenthesis. -/
def search (inner : Readers) (ts : List Token) : Found := do
  let (found, rest) ← partList inner.unary ts
  let rest ← skipWord "AGAINST" (← skipSign ")" rest)
  match rest with
  | .sign "(" :: .text _ :: rest =>
    closed (some ((References.all found).deeper, skipSearchMode (skipTexts rest)))
  | _ => none

/-- Reads a key of an object with its value. -/
def keyedValue (inner : Readers) : Reader := fun ts => do
  let (key, rest) ← inner.unary (skipOptional ["KEY"] ts)
  let rest := ((skipSigns [":", ","] rest).or (skipWord "IS" rest)).getD rest
  let (value, rest) ← inner.value (skipOptional ["VALUE"] rest)
  match key, value with
  | some key, some value => some (some (key.beside value).deeper, skipPhrase ["FORMAT", "JSON"] rest)
  | none, none => absent ts
  | _, _ => none

/-- Reads an object of keys and values, behind the opening parenthesis. -/
def keyedValues (inner : Readers) (ts : List Token) : Found := do
  let (r, rest) ← match skipSign "*" ts with
    | some rest => some (.none, rest)
    | none => listWithin inner.keyedValue ts
  let rest := skipPhrase ["ABSENT", "ON", "NULL"] (skipPhrase ["NULL", "ON", "NULL"] rest)
  let rest := skipPhrase ["WITHOUT", "UNIQUE"] (skipPhrase ["WITH", "UNIQUE"] rest)
  let rest := skipOptional ["KEYS"] rest
  match skipWord "RETURNING" rest with
  | some rest => closed ((skipType inner.grammar rest).map fun rest => (r, rest))
  | none => closed (some (r, rest))

/-- Functions that take a query in their parentheses. -/
def queryFunctions : List String :=
  ["ALL", "ANY", "EXISTS", "SOME"]

/-- Reads the arguments of a function of any form, behind the opening parenthesis. -/
def plainFunction (inner : Readers) (word : String) (ts : List Token) : Found := do
  let signature := signature? inner.grammar word
  let (found, rest) ← partList (inner.unitOrArgument signature.isNone) ts
  let rest ← skipSign ")" rest
  match signature with
  | none => return ((References.all (found.map Argument.references)).deeper, rest)
  | some s => if s.admits found.length then return ((looked s found).deeper, rest) else none

/-- Reads a function behind its opening parenthesis. -/
def function (inner : Readers) (word : String) (ts : List Token) : Found := do
  let (r, rest) ← match upper word with
    | "CAST" | "TRY_CAST" | "SAFE_CAST" => inner.cast ts
    | "CONVERT" | "TRY_CONVERT" => inner.convert ts
    | "EXTRACT" => inner.extract ts
    | "DATE_PART" =>
      if inner.grammar = .postgres then inner.extract ts else inner.plainFunction "DATE_PART" ts
    | "CEIL" => inner.rounded "CEIL" ts
    | "FLOOR" => inner.rounded "FLOOR" ts
    | "CHAR" | "CHR" => inner.characters ts
    | "SUBSTRING" => inner.cut ts
    | "TRIM" => inner.trim ts
    | "POSITION" => inner.position ts
    | "OVERLAY" => inner.replacement ts
    | "NORMALIZE" => inner.normalized ts
    | "STRING_AGG" => inner.separated ts
    | "JSON_OBJECT" | "JSON_OBJECTAGG" => inner.keyedValues ts
    | "MATCH" => inner.search ts
    | "XMLELEMENT" => inner.element ts
    | "GROUP_CONCAT" =>
      if inner.grammar = .mysql then inner.separated ts else inner.plainFunction "GROUP_CONCAT" ts
    | "DATE_ADD" | "DATE_SUB" =>
      if inner.grammar = .mysql then inner.dateStep ts else inner.plainFunction "DATE_ADD" ts
    | word => inner.plainFunction word ts
  inner.windowed r rest

/-- Words that may be names of columns but not of functions. -/
def notFunctions : List String :=
  ["ANTI", "ASC", "ASOF", "BEGIN", "DEFAULT", "DELETE", "DESC", "END", "ESCAPE", "FULL", "IS", "LIMIT",
   "NATURAL", "PARTITION", "SEMI", "SET", "UPDATE", "USE"]

/-- Words that are names of functions but not of columns. -/
def onlyFunctions : List String :=
  ["GLOB", "ILIKE", "INSERT", "LIKE", "REGEXP", "RLIKE", "XOR"]

/-- Whether a word may be the name of a function. -/
def mayBeFunction (word : String) : Bool :=
  (mayBeName word || onlyFunctions.contains (upper word)) && !notFunctions.contains (upper word)

/-! ## Operands -/

/-- An operand: a column by its last name and the number of its names, or anything else. -/
inductive Operand where
  | column (name : String) (names : Nat)
  | other (references : References)
  deriving DecidableEq, Repr

/-- The references of an operand. -/
def Operand.references : Operand → References
  | .column name _ => .column name
  | .other r => r

/-- The most names that make up a column. -/
def mostNames : Nat := 4

/-- An operand with another name behind a point. -/
def Operand.dot (o : Operand) (name : String) : Operand :=
  match o with
  | .column _ names =>
    if names < mostNames then .column name (names + 1) else .other o.references.deeper
  | .other r => .other r.deeper

/-- Whether a query stands behind opening parentheses. -/
def opensQuery : List Token → Bool
  | .sign "(" :: rest => opensQuery rest
  | ts => startsWith ["SELECT", "WITH", "FROM", "VALUES"] ts

/-- Reads what stands in parentheses, behind the opening one: a query, expressions, or nothing. -/
def parenthesis (inner : Readers) (ts : List Token) : Found := do
  let (query, rest) ← inner.query ts
  match query with
  | some r => (closed (some (r, rest))).deeper
  | none =>
    let (first, rest) ← inner.named ts
    let (more, behind) ← moreParts inner.named rest.length rest
    match first, more with
    | none, [] => if behind.length = ts.length then closed (some (.none, ts)) else none
    | some r, [] =>
      if ts.head? = some (.sign "(") ∧ opensQuery ts ∧ behind.length = rest.length then
        (closed (inner.continued r behind)).deeper
      else closed (some (r.deeper, behind))
    | _, _ => closed (some ((References.all (first.toList ++ more)).deeper, behind))

/-- The replacements for a star: columns that it leaves out or gives other names. -/
def starChanges (inner : Readers) (ts : List Token) : Found :=
  match skipAny ["EXCEPT", "EXCLUDE", "REPLACE", "RENAME"] ts with
  | none => some (.none, ts)
  | some (.sign "(" :: rest) => closed (listWithin inner.named rest)
  | some rest => (inner.explicitlyNamed rest).optional.deeper

/-- Reads a placeholder for a value behind its mark. -/
def skipPlaceholder : List Token → Option (List Token)
  | .sign "?" :: rest => some rest
  | .sign ":" :: .word _ :: rest => some rest
  | .sign ":" :: .number _ :: rest => some rest
  | .sign "@" :: .word _ :: rest => some rest
  | .sign "@" :: .text _ :: rest => some rest
  | .sign "@" :: .sign "@" :: .word _ :: rest => some rest
  | .sign "$" :: .number _ :: rest => some rest
  | .sign "$" :: .word _ :: rest => some rest
  | _ => none

/-- Reads an operand that begins with a word. -/
def wordOperand (inner : Readers) (word : String) (rest : List Token) :
    Option (Option Operand × List Token) :=
  let key := upper word
  let column := if mayBeName word then some (Operand.column word 1) else none
  let other (f : Found) : Option (Option Operand × List Token) :=
    f.map fun (r, rest) => (some (.other r), rest)
  let nameOnly : Option (Option Operand × List Token) :=
    match column with
    | some column => some (some column, rest)
    | none => some (none, .word word :: rest)
  if key = "VALUES" ∧ rest.head? ≠ some (.sign "(") then some (some (.column word 1), rest)
  else
    match rest with
    | .sign "(" :: inside =>
      if key = "VALUES" ∧ inner.grammar = .mysql then
        other ((closed ((nameAt inside).map fun (_, rest) => (.none, rest))).bind fun (r, rest) =>
          inner.windowed r rest)
      else if key = "IF" then other (do
        let (found, rest) ← partList inner.explicitlyNamed inside
        if found.length < 2 ∨ 3 < found.length then none
        else closed (some ((References.all found).deeper, rest)))
      else if key = "ANY" then other (inner.value rest).within
      else if key = "CASE" then other (inner.choice rest)
      else if queryFunctions.contains key ∧ startsWith ["SELECT", "WITH"] inside then
        other (closed (inner.query inside).within)
      else if valueWords.contains key ∧ ["NULL", "TRUE", "FALSE"].contains key then
        some (some (.other .none), rest)
      else if mayBeFunction word then other (inner.function word inside)
      else nameOnly
    | _ =>
      if key = "CASE" then
        if rest.head? = some (.sign ".") then nameOnly else other (inner.choice rest)
      else if key = "ANY" then other (inner.value rest).within
      else if key = "IF" then
        match inner.branch rest with
        | none => none
        | some (some r, rest) => some (some (.other r), rest)
        | some (none, _) => nameOnly
      else if valueWords.contains key ∨ (key = "CURRENT_SCHEMA" ∧ inner.grammar = .postgres) then
        some (some (.other .none), rest)
      else if typeWords.contains key ∧ key ≠ "INTERVAL" then
        match rest with
        | .text _ :: behind => some (some (.other .none), skipTexts behind)
        | .number _ :: behind => some (some (.other .none), behind)
        | _ => nameOnly
      else nameOnly

/-- Reads an operand without anything behind it. -/
def simple (inner : Readers) (ts : List Token) : Option (Option Operand × List Token) :=
  match ts with
  | .number _ :: rest => some (some (.other .none), rest)
  | .text _ :: rest => some (some (.other .none), skipTexts rest)
  | .sign "*" :: rest => (inner.starChanges rest).map fun (r, rest) => (some (.other r), rest)
  | .sign "." :: .number _ :: rest => some (some (.other .none), rest)
  | .sign "(" :: rest => (inner.parenthesis rest).map fun (r, rest) => (some (.other r), rest)
  | .name n :: .sign "(" :: rest =>
    (inner.function n rest).map fun (r, rest) => (some (.other r), rest)
  | .name n :: rest => some (some (.column n 1), rest)
  | .word w :: rest => inner.wordOperand w rest
  | _ =>
    match skipPlaceholder ts with
    | some rest => some (some (.other .none), rest)
    | none => some (none, ts)

/-- Reads what stands in brackets behind an operand. -/
def bracket (inner : Readers) (ts : List Token) : Found := do
  let skip := fun ts => (skipSign "," ts).or (skipSign ":" ts)
  let (r, rest) ← (chain skip inner.explicitlyNamed ts).optional
  let rest ← skipSign "]" rest
  return (r, rest)

/-- Reads a name or a function behind an operand and a point. -/
def member? (inner : Readers) (o : Operand) (ts : List Token) : Option (Operand × List Token) :=
  match ts with
  | .word f :: .sign "(" :: rest | .name f :: .sign "(" :: rest =>
    (inner.function f rest).map fun (r, rest) =>
      match o with
      | .column .. => (.other r.deeper, rest)
      | .other before => (.other (before.beside r).deeper, rest)
  | .sign "*" :: rest => some (o.dot "*", rest)
  | .word w :: rest =>
    if upper w = "TRUE" ∨ upper w = "FALSE" then some (o.dot "", rest)
    else (anyName (.word w :: rest)).map fun (name, rest) => (o.dot name, rest)
  | _ => (anyName ts).map fun (name, rest) => (o.dot name, rest)

/-- The operators that reach into a value. -/
def pathSigns : List String :=
  ["->", "->>", "#>", "#>>", "?"]

/-- Reads what follows an operand: names behind points, types, paths and brackets.  The bound is on
their number. -/
def operandFrom (inner : Readers) : (bound : Nat) → Operand → List Token →
    Option (Operand × List Token)
  | 0, o, ts => some (o, ts)
  | bound + 1, o, ts =>
    match ts with
    | .sign "." :: rest => do
      let (o, rest) ← inner.member? o rest
      inner.operandFrom bound o rest
    | .sign "::" :: rest => do
      let rest ← skipType inner.grammar rest
      inner.operandFrom bound (.other o.references.deeper) rest
    | .sign "[" :: rest => do
      let (r, rest) ← inner.bracket rest
      let before := match o with
        | .column name 1 => if upper name = "ARRAY" then References.none else o.references
        | _ => o.references
      inner.operandFrom bound (.other (before.beside r).deeper) rest
    | .sign mark :: rest =>
      if pathSigns.contains mark then do
        let (key, rest) ← inner.simple rest
        let key ← key
        inner.operandFrom bound (.other (o.references.beside key.references).deeper) rest
      else some (o, ts)
    | _ => some (o, ts)

/-- Reads an operand with all that follows it. -/
def operand (inner : Readers) (ts : List Token) : Part := do
  let length ← match skipWord "INTERVAL" ts with
    | some rest => inner.interval rest
    | none => absent ts
  match length with
  | (some r, rest) => some (some r, rest)
  | (none, _) =>
    let (o, rest) ← inner.simple ts
    match o with
    | none =>
      match skipSign "[" rest with
      | some inside => (inner.bracket inside).deeper.part
      | none => absent rest
    | some o =>
      let (o, rest) ← inner.operandFrom rest.length o rest
      some (some o.references, rest)

/-! ## Operators -/

/-- Reads an operand with the signs in front of it. -/
def signedOperand (inner : Readers) (ts : List Token) : Part :=
  match ts with
  | .sign "+" :: rest => inner.unary rest
  | .sign "-" :: rest | .sign "~" :: rest | .sign "|/" :: rest | .sign "||/" :: rest =>
    (inner.unary rest).within.part
  | .sign "!" :: rest => (inner.equality rest).within.part
  | _ =>
    match skipWord "NOT" ts with
    | some rest => (inner.equality rest).within.part
    | none => inner.operand ts

/-- Reads a time zone behind an operand.  The bound is on the number of zones. -/
def zones (inner : Readers) : (bound : Nat) → Option References → List Token → Part
  | 0, r, ts => some (r, ts)
  | bound + 1, r, ts =>
    match r, skipWords ["AT", "TIME", "ZONE"] ts with
    | some r, some rest => do
      let (zone, rest) ← (inner.unary rest).required
      inner.zones bound (some (r.beside zone).deeper) rest
    | r, _ => some (r, ts)

/-- Reads an operand with its time zone and the rule by which it is compared. -/
def collated (inner : Readers) : Reader := fun ts => do
  let (r, rest) ← inner.signedOperand ts
  let (r, rest) ← inner.zones rest.length r rest
  match r, skipWord "COLLATE" rest with
  | some r, some behind =>
    match nameOrText behind with
    | some (name, .sign "." :: more) => do
      let (o, behind) ← inner.operandFrom more.length (.column name 1) (.sign "." :: more)
      some (some (r.beside o.references).deeper, behind)
    | some (_, behind) => some (some r.deeper, behind)
    | none => none
  | r, _ => some (r, rest)

/-- Reads a power, where there is a sign for it. -/
def power (inner : Readers) : Reader :=
  if inner.grammar = .postgres then chain (skipSign "^") inner.collated else inner.collated

/-- Reads a product. -/
def product (inner : Readers) : Reader :=
  let divided := fun ts => if inner.grammar = .postgres then none else skipWord "DIV" ts
  chain (fun ts => (skipSigns ["*", "/", "<->"] ts).or (divided ts)) inner.power

/-- Reads a sum. -/
def sum (inner : Readers) : Reader :=
  chain (skipSigns ["+", "-", "%"]) inner.product

/-- What remains behind an operator on bits or texts. -/
def skipBitwise (g : Grammar) : List Token → Option (List Token)
  | .sign "<" :: .sign "<" :: rest => some rest
  | .sign ">" :: .sign ">" :: rest => some rest
  | ts =>
    (skipSigns ["&", "^", "|", "??"] ts).or
      ((if g = .mysql then none else skipSign "||" ts).or
        (if g = .postgres then skipSign "#" ts else none))

/-- Reads a value: an expression without conditions. -/
def valueOf (inner : Readers) : Reader :=
  chain (skipBitwise inner.grammar) inner.sum

/-- The words for comparisons with a pattern. -/
def patternWords : List String :=
  ["GLOB", "ILIKE", "LIKE", "OVERLAPS", "REGEXP", "RLIKE", "SIMILAR TO"]

/-- The signs for comparisons with a pattern or a collection. -/
def patternSigns (g : Grammar) : List String :=
  let common := ["~~", "~~*", "~~~", "~*"]
  if g = .postgres then
    common ++ ["~", "@>", "<@", "@@", "?&", "?|", "#-", "-|-", "&<", "&>", "&&"]
  else common

/-- What remains behind a comparison with a pattern. -/
def skipPattern (g : Grammar) (ts : List Token) : Option (List Token) :=
  (skipAny patternWords ts).or ((skipWord "SOUNDS LIKE" ts).or (skipSigns (patternSigns g) ts))

/-- Reads the escape character of a pattern. -/
def withEscape (r : References) (ts : List Token) : References × List Token :=
  match skipWord "ESCAPE" ts with
  | some (.text _ :: rest) => (r.deeper, rest)
  | _ => (r, ts)

/-- Reads the values that a value is among, behind the word for it. -/
def among (inner : Readers) (left : References) (ts : List Token) : Found :=
  match ts with
  | .sign "(" :: rest => do
    let (found, behind) ← partList (firstOf [inner.query, inner.assignment]) rest
    let right := References.all found
    if startsWith ["SELECT", "WITH", "FROM"] rest ∧ found.length = 1 then
      let (query, behind) ← inner.continued right behind
      closed (some ((left.beside query.deeper).deeper, behind))
    else closed (some ((left.beside right).deeper, behind))
  | _ => do
    let (o, rest) ← inner.simple ts
    match o with
    | none => return (left.deeper, rest)
    | some o =>
      let (o, rest) ← inner.operandFrom rest.length o rest
      return ((left.beside o.references).deeper, rest)

/-- What remains behind the kind of a value in text form, and whether its keys differ. -/
def skipJsonKind (ts : List Token) : List Token :=
  let ts := skipOptional ["VALUE", "SCALAR", "ARRAY", "OBJECT"] ts
  skipOptional ["KEYS"] (skipPhrase ["WITHOUT", "UNIQUE"] (skipPhrase ["WITH", "UNIQUE"] ts))

/-- Reads a test of what a value is, behind the word for it, if there is one. -/
def identity (inner : Readers) (left : References) (ts : List Token) : Option (Found) :=
  let negative := startsWith ["NOT"] ts
  let behind := skipOptional ["NOT"] ts
  match skipWords ["DISTINCT", "FROM"] behind with
  | some rest =>
    some ((inner.value rest).required.map fun (right, rest) => ((left.beside right).deeper, rest))
  | none =>
    match (skipWord "JSON" behind).map skipJsonKind with
    | some rest => some (some (if negative then left.deeper.deeper else left.deeper, rest))
    | none =>
    match inner.value behind with
    | none => some none
    | some (none, _) => none
    | some (some right, rest) =>
      let r := (left.beside right).deeper
      some (some (if negative then r.deeper else r, rest))

/-- Reads a range that a value lies in, behind the word for it. -/
def between (inner : Readers) (left : References) (ts : List Token) : Found := do
  let (low, rest) ← (inner.value (skipOptional ["SYMMETRIC", "ASYMMETRIC"] ts)).required
  let (high, rest) ← (inner.value (skipOptional ["AND"] rest)).required
  return (((left.beside low).beside high).deeper, rest)

/-- Reads a test of a value behind it, if there is one. -/
def tested (inner : Readers) (left : References) (ts : List Token) : Found :=
  match skipWord "BETWEEN" ts, skipWord "IN" ts, skipPattern inner.grammar ts, skipWord "IS" ts with
  | some rest, _, _, _ => inner.between left rest
  | none, some rest, _, _ => inner.among left rest
  | none, none, some rest, _ =>
    (inner.value rest).required.map fun (right, rest) =>
      withEscape (left.beside right).deeper rest
  | none, none, none, some rest => (inner.identity left rest).getD (some (left, ts))
  | none, none, none, none =>
    match skipWord "ISNULL" ts, skipWord "MEMBER OF" ts with
    | some rest, _ => some (left.deeper, rest)
    | none, some (.sign "(" :: rest) =>
      closed ((inner.expression rest).required.map fun (right, rest) =>
        ((left.beside right).deeper, rest))
    | none, _ => some (left, ts)

/-- Reads a value and the tests of it. -/
def test (inner : Readers) : Reader := fun ts => do
  let (left, rest) ← inner.valueOf ts
  match left with
  | none => absent rest
  | some left =>
    let negated := (skipWord "NOT" rest).or (skipSign "!" rest)
    let behind := negated.getD rest
    let (r, rest) ← match negated, skipWord "NULL" behind with
      | some _, some rest => some (left.deeper, rest)
      | _, _ => inner.tested left behind
    let (r, rest) := match skipWord "NOTNULL" rest with
      | some rest => (r.deeper.deeper, rest)
      | none => (r, rest)
    let r := if negated.isSome then r.deeper else r
    match skipWord "IS" rest with
    | some behind => ((inner.identity r behind).getD (some (r, rest))).part
    | none => some (some r, rest)

/-- Reads a comparison by size. -/
def comparison (inner : Readers) : Reader :=
  chain (skipSigns ["<", "<=", ">", ">="]) inner.test

/-- Reads an equality. -/
def equalityOf (inner : Readers) : Reader :=
  chain (skipSigns ["=", "==", "!=", "<>", "<=>"]) inner.comparison

/-- Reads conditions that must all hold. -/
def conjunction (inner : Readers) : Reader :=
  let more := fun ts =>
    if inner.grammar = .mysql then (skipSign "&&" ts).or (skipWord "XOR" ts) else none
  chain (fun ts => (skipWord "AND" ts).or (more ts)) inner.equalityOf

/-- Reads conditions of which one must hold. -/
def disjunction (inner : Readers) : Reader :=
  let more := fun ts => if inner.grammar = .mysql then skipSign "||" ts else none
  chain (fun ts => (skipWord "OR" ts).or (more ts)) inner.conjunction

end Readers

end FactModel.Sql
