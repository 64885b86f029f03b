import FactModel.Proofs.Sql.Lexing
import FactModel.Proofs.View.Rows
import FactModel.Query.Basic
import FactModel.Sql.Query
import FactModel.View.Layout

/-!
# What written queries select

The queries that are written select rows of one table by one comparison, in which columns, literals
and the number of the rows of another table may stand.  Such a query is read from its tokens as a
database would read it, and evaluated on rows.
-/

namespace FactModel.Sql

/-! ## Queries over one table -/

/-- What a comparison compares. -/
inductive Operator where
  | equal
  | less
  deriving DecidableEq, Repr

/-- A value that is written without a query. -/
inductive Atom where
  /-- A column, perhaps with the name of the rows that have it. -/
  | column (source : Option String) (name : String)
  | literal (value : Literal)
  deriving DecidableEq, Repr

/-- A table and the name under which its rows are spoken of. -/
structure Source where
  table : String
  as : Option String
  deriving DecidableEq, Repr

/-- A value. -/
inductive Term where
  | atom (a : Atom)
  /-- The number of the rows for which two values compare. -/
  | count (source : Source) (left : Atom) (operator : Operator) (right : Atom)
  deriving DecidableEq, Repr

/-- A comparison of two values. -/
structure Condition where
  left : Term
  operator : Operator
  right : Term
  deriving DecidableEq, Repr

/-- A query that selects rows of a table. -/
structure Statement where
  selection : Selection
  source : Source
  condition : Option Condition
  deriving DecidableEq, Repr

/-! ### What a query refers to -/

/-- The columns that a value refers to. -/
def Atom.columns : Atom → List String
  | .column _ name => [name]
  | .literal _ => []

/-- The columns that a value refers to. -/
def Term.columns : Term → List String
  | .atom a => a.columns
  | .count _ left _ right => left.columns ++ right.columns

/-- The tables that a value refers to. -/
def Term.tables : Term → List String
  | .atom _ => []
  | .count source .. => [source.table]

/-- The columns that a query refers to, in order of appearance. -/
def Statement.columns (st : Statement) : List String :=
  st.selection.columns ++ st.condition.toList.flatMap fun c => c.left.columns ++ c.right.columns

/-- The tables that a query refers to, in order of appearance. -/
def Statement.tables (st : Statement) : List String :=
  st.source.table :: st.condition.toList.flatMap fun c => c.left.tables ++ c.right.tables

/-- The name under which the rows of a table are spoken of. -/
def Source.name (s : Source) : String :=
  s.as.getD s.table

/-- Whether the rows that a value refers to by a name are among those of given names. -/
def Atom.inScope (names : List String) : Atom → Bool
  | .column (some source) _ => names.contains source
  | .column none _ | .literal _ => true

/-- Whether the rows that a value refers to by a name are among those of given names, or its own. -/
def Term.inScope (names : List String) : Term → Bool
  | .atom a => a.inScope names
  | .count source left _ right =>
    left.inScope (source.name :: names) && right.inScope (source.name :: names)

/-- Whether a query refers to rows that are there. -/
def Statement.isScoped (st : Statement) : Bool :=
  st.condition.all fun c => c.left.inScope [st.source.name] && c.right.inScope [st.source.name]

/-! ## Evaluation -/

/-- What literals and numbers of rows are as values, and which values precede others. -/
structure Domain (V : Type) where
  ofLiteral : Literal → V
  ofCount : Nat → V
  precedes : V → V → Bool

/-- Numbers of rows compare with decimal literals as the numbers do that these stand for. -/
def Domain.Counts {V : Type} (dom : Domain V) : Prop :=
  ∀ m n : Nat, dom.precedes (dom.ofCount m) (dom.ofLiteral (.number (toString n).toList)) =
    decide (m < n)

/-- Numbers of rows beside literals.  A number precedes the digits of a greater one. -/
def Domain.numbers : Domain (Nat ⊕ Literal) where
  ofLiteral := .inr
  ofCount := .inl
  precedes
    | .inl n, .inr (.number digits) => n < Count.decimal digits
    | _, _ => false

theorem Domain.counts_numbers : Domain.numbers.Counts := by
  intro m n
  simp only [Count.toList_toString]
  simp [numbers, Count.decimal_digits]

section Evaluation

variable {V : Type} [DecidableEq V] (dom : Domain V)

/-- Whether two values compare.  With NULL nothing does. -/
def Operator.holds : Operator → Option V → Option V → Bool
  | .equal, some a, some b => a = b
  | .less, some a, some b => dom.precedes a b
  | _, _, _ => false

/-- The rows that a value may refer to, the innermost first, with the names under which they are
spoken of. -/
abbrev Scope (V : Type) := List (String × Row V)

/-- The value of a column or a literal.  A column without the name of its rows is one of the
innermost row. -/
def Atom.value (scope : Scope V) : Atom → Option V
  | .column none name => scope.head?.bind fun (_, row) => row name
  | .column (some source) name => (scope.find? (·.1 == source)).bind fun (_, row) => row name
  | .literal v => some (dom.ofLiteral v)

/-- The value that a term has for a row. -/
def Term.value (db : Contents V) (scope : Scope V) : Term → Option V
  | .atom a => a.value dom scope
  | .count source left operator right =>
    some (dom.ofCount ((db source.table).countP fun row =>
      let inner := (source.name, row) :: scope
      operator.holds dom (left.value dom inner) (right.value dom inner)))

/-- Whether a condition holds for a row. -/
def Condition.holds (db : Contents V) (scope : Scope V) (c : Condition) : Bool :=
  c.operator.holds dom (c.left.value dom db scope) (c.right.value dom db scope)

/-- The rows that a query selects. -/
def Statement.rows (db : Contents V) (st : Statement) : List (Row V) :=
  (db st.source.table).filter fun row =>
    st.condition.all (·.holds dom db [(st.source.name, row)])

/-- The number that a query returns which asks for the number of its rows. -/
def Statement.count? (db : Contents V) (st : Statement) : Option Nat :=
  match st.selection with
  | .count _ => some (st.rows dom db).length
  | _ => none

end Evaluation

/-! ## Reading -/

/-- Words that may be names and stand for something else where a value is read. -/
def otherWords (g : Grammar) : List String :=
  "ANY" :: valueWords ++ (if g = .postgres then ["CURRENT_SCHEMA"] else [])

/-- Words that may be names and stand for something else at the front of a selection. -/
def selectionWords (g : Grammar) : List String :=
  Readers.runWords g ++ (if g = .mysql then ["DISTINCTROW"] else [])

/-- Words that may be names and stand for something else in a condition. -/
def conditionWords : List String :=
  ["IF"]

/-- Whether a word stands for a column at a place where some words stand for something else. -/
def isColumn (g : Grammar) (others : List String) (word : String) : Bool :=
  mayBeName word && !(otherWords g ++ others).contains (upper word)

/-- Reads a column without the name of its rows. -/
def columnAt (g : Grammar) (others : List String) : List Token → Option (String × List Token)
  | .name n :: rest => some (n, rest)
  | .word w :: rest => if isColumn g others w then some (w, rest) else none
  | _ => none

/-- Reads a name behind a point, where any word is one. -/
def memberAt : List Token → Option (String × List Token)
  | .name n :: rest => some (n, rest)
  | .word w :: rest => some (w, rest)
  | _ => none

/-- Reads a column or a literal. -/
def atomAt (g : Grammar) : List Token → Option (Atom × List Token)
  | .text value :: rest => some (.literal (.text value.toList), rest)
  | .number digits :: rest => some (.literal (.number digits.toList), rest)
  | .sign "-" :: .number digits :: rest => some (.literal (.number ('-' :: digits.toList)), rest)
  | ts => do
    let (name, rest) ← columnAt g conditionWords ts
    match skipSign "." rest with
    | none => return (.column none name, rest)
    | some rest =>
      let (member, rest) ← memberAt rest
      return (.column (some name) member, rest)

/-- Reads a table, perhaps with a name for its rows. -/
def sourceAt (ts : List Token) : Option (Source × List Token) := do
  let (table, rest) ← nameAt ts
  match nameAt rest with
  | some (as, rest) => return ({ table, as := some as }, rest)
  | none => return ({ table, as := none }, rest)

/-- Reads what a comparison compares. -/
def operatorAt : List Token → Option (Operator × List Token)
  | .sign "=" :: rest => some (.equal, rest)
  | .sign "<" :: rest => some (.less, rest)
  | _ => none

/-- What remains behind several signs. -/
def skipMarks (marks : List String) (ts : List Token) : Option (List Token) :=
  marks.foldlM (fun ts mark => skipSign mark ts) ts

/-- Reads the number of the rows of a table for which two values compare. -/
def countAt (g : Grammar) (ts : List Token) : Option (Term × List Token) := do
  let rest ← skipWords ["SELECT", "COUNT"] (← skipSign "(" ts)
  let rest ← skipMarks ["(", "*", ")"] rest
  let (source, rest) ← sourceAt (← skipWord "FROM" rest)
  let rest ← skipWord "WHERE" rest
  let (left, rest) ← atomAt g rest
  let (operator, rest) ← operatorAt rest
  let (right, rest) ← atomAt g rest
  let rest ← skipSign ")" rest
  return (.count source left operator right, rest)

/-- Reads a value. -/
def termAt (g : Grammar) (ts : List Token) : Option (Term × List Token) :=
  match atomAt g ts with
  | some (a, rest) => some (.atom a, rest)
  | none => countAt g ts

/-- Reads a function of rows, behind its name and the opening parenthesis. -/
def functionAt (g : Grammar) (name : String) (ts : List Token) : Option (Selection × List Token) :=
  match name with
  | "COUNT" => do
    let (as, rest) ← named (← skipSign "*" ts)
    return (.count as, rest)
  | "MIN" => do
    let (column, rest) ← columnAt g [] ts
    let (as, rest) ← named rest
    return (.least column as, rest)
  | "MAX" => do
    let (column, rest) ← columnAt g [] ts
    let (as, rest) ← named rest
    return (.greatest column as, rest)
  | _ => none
where
  /-- Reads the name that the value of the function is given. -/
  named (ts : List Token) : Option (String × List Token) := do
    memberAt (← skipWord "AS" (← skipSign ")" ts))

/-- Reads what a query selects. -/
def selectionAt (g : Grammar) : List Token → Option (Selection × List Token)
  | .sign "*" :: rest => some (.all, rest)
  | .word w :: .sign "(" :: rest => functionAt g (upper w) rest
  | ts => (columnAt g (selectionWords g) ts).map fun (name, rest) => (.column name, rest)

/-- Reads a condition, if there is one. -/
def conditionAt (g : Grammar) (ts : List Token) : Option (Option Condition × List Token) :=
  match skipWord "WHERE" ts with
  | none => some (none, ts)
  | some rest => do
    let (left, rest) ← termAt g rest
    let (operator, rest) ← operatorAt rest
    let (right, rest) ← termAt g rest
    return (some { left, operator, right }, rest)

/-- Reads a query up to the semicolon at its end.  The rows that it refers to must be there. -/
def statement? (g : Grammar) (ts : List Token) : Option Statement := do
  let (selection, rest) ← selectionAt g (← skipWord "SELECT" ts)
  let (source, rest) ← sourceAt (← skipWord "FROM" rest)
  let (condition, rest) ← conditionAt g rest
  let st : Statement := { selection, source, condition }
  if rest = [.sign ";"] ∧ st.isScoped then some st else none

/-- The query that a database takes a text for. -/
def Statement.ofText? (g : Grammar) (text : String) : Option Statement :=
  if '\x00' ∈ text.toList ∧ g.holdsNull = false then none
  else (tokens (.ofGrammar g) text).bind (statement? g)

/-! ### Names that are read back -/

section Names

variable {d : Dialect} {name : String} {rest : List Token}

/-- Whether a name, as a dialect writes it, stands for a column at a place where some words stand
for something else. -/
def Shows (d : Dialect) (others : List String) (name : String) : Prop :=
  name ≠ "" ∧ (d.isReserved name = true ∨ isColumn (.ofName d.grammar) others name = true)

theorem columnAt_nameTokens {others : List String} (shows : Shows d others name) :
    columnAt (.ofName d.grammar) others (nameTokens d name ++ rest) = some (name, rest) := by
  rw [nameTokens, if_neg shows.1]
  by_cases reserved : d.isReserved name = true
  · rw [if_pos reserved]
    rfl
  · rw [if_neg reserved]
    exact if_pos (shows.2.resolve_left reserved)

theorem shows_of_columnAt {others : List String} {found : String × List Token}
    (ends : columnAt (.ofName d.grammar) others rest = none)
    (read : columnAt (.ofName d.grammar) others (nameTokens d name ++ rest) = some found) :
    Shows d others name := by
  unfold nameTokens at read
  split at read
  · rw [List.nil_append, ends] at read
    contradiction
  · next filled =>
    refine ⟨filled, ?_⟩
    split at read
    · next reserved => exact .inl reserved
    · by_contra other
      rw [not_or] at other
      rw [List.singleton_append, columnAt, if_neg other.2] at read
      contradiction

/-- A name that a table may have: a plain one that is no keyword. -/
structure IsTableName (name : String) : Prop where
  plain : Name.IsPlain name
  filled : name ≠ ""
  usable : mayBeName name = true

/-- The name of a table is read as well, reserved or not. -/
theorem nameAt_nameTokens (named : IsTableName name) :
    nameAt (nameTokens d name ++ rest) = some (name, rest) := by
  rw [nameTokens, if_neg named.filled]
  split
  · rfl
  · exact if_pos named.usable

theorem memberAt_nameTokens (filled : name ≠ "") :
    memberAt (nameTokens d name ++ rest) = some (name, rest) := by
  rw [nameTokens, if_neg filled]
  split <;> rfl

/-- The names of tables and views are no keywords. -/
theorem isTableName_append {start : String} (mem : start ∈ [Mapping.tableStart, View.viewStart])
    (plain : Name.IsPlain (start ++ name)) : IsTableName (start ++ name) := by
  have filled : ∀ start ∈ [Mapping.tableStart, View.viewStart], start ≠ "" := by
    decide
  have starts : ∀ start ∈ [Mapping.tableStart, View.viewStart], ∀ word ∈ keywords,
      ¬(upper start).toList <+: word.toList := by
    decide
  have other : ¬keywords.contains (upper (start ++ name)) = true := by
    intro keyword
    refine starts start mem _ (List.contains_iff_mem.mp keyword) ⟨(upper name).toList, ?_⟩
    simp [upper]
  have noSpace : ' ' ∉ (start ++ name).toList := fun mem =>
    absurd (plain.chars ' ' mem) (by decide)
  refine ⟨plain, fun empty => filled start mem (String.append_eq_empty_iff.mp empty).1, ?_⟩
  simp only [mayBeName, Bool.and_eq_true, Bool.not_eq_true']
  exact ⟨eq_false_of_ne_true other, by simpa using noSpace⟩

/-- The character that a text may not be able to hold is not in a plain name. -/
theorem null_not_mem_quote (usual : d ∈ Dialect.usual) (plain : Name.IsPlain name) :
    '\x00' ∉ (d.quote name).toList := by
  have marks : ∀ d ∈ Dialect.usual,
      '\x00' ∉ d.quoteMarks.1.toList ∧ '\x00' ∉ d.quoteMarks.2.toList := by
    decide
  have inside : '\x00' ∉ name.toList := fun mem => absurd (plain.chars _ mem) (by decide)
  unfold Dialect.quote
  split
  · simp [marks d usual, inside]
  · exact inside

/-! ### Parts of queries that are read back -/

/-- Keywords are written in capital letters. -/
theorem upper_used {word : String} (mem : word ∈ usedWords) : upper word = word :=
  (by decide : ∀ word ∈ usedWords, upper word = word) word mem

theorem skipWord_used {word : String} (mem : word ∈ usedWords) (ts : List Token) :
    skipWord word (.word word :: ts) = some ts := by
  simp [skipWord, skipAny, startsWith, Token.keyword?, upper_used mem]

theorem named_tokens {as : String} (filled : as ≠ "") :
    functionAt.named (.sign ")" :: .word "AS" :: (nameTokens d as ++ rest)) = some (as, rest) := by
  simp (disch := decide) [functionAt.named, skipSign, skipWord_used, memberAt_nameTokens filled]

theorem selectionAt_function {word : String} (mem : word ∈ usedWords) (ts : List Token) :
    selectionAt (.ofName d.grammar) (.word word :: .sign "(" :: ts) =
      functionAt (.ofName d.grammar) word ts := by
  rw [selectionAt, upper_used mem]

theorem sourceAt_nameTokens (named : IsTableName name) (ends : nameAt rest = none) :
    sourceAt (nameTokens d name ++ rest) = some ({ table := name, as := none }, rest) := by
  simp [sourceAt, nameAt_nameTokens named, ends]

theorem sourceAt_as {as : String} (named : IsTableName name) (usable : mayBeName as = true) :
    sourceAt (nameTokens d name ++ .word as :: rest) =
      some ({ table := name, as := some as }, rest) := by
  have behind : nameAt (.word as :: rest) = some (as, rest) := if_pos usable
  simp [sourceAt, nameAt_nameTokens named, behind]

end Names

end FactModel.Sql
