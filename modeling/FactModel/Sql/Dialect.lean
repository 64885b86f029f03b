import FactModel.Json.Checked
import FactModel.SemanticType
import FactModel.Text.Case

/-!
# Dialects

What distinguishes one database from another as far as generated text goes: the names of column
types, the words that must be quoted when they are identifiers, and a few phrases.
-/

namespace FactModel

open FactModel.Text

/-- A dialect of SQL. -/
structure Dialect where
  name : String
  /-- The name of the grammar by which queries in this dialect are read back. -/
  grammar : String
  /-- The column types; a semantic type may be left without one. -/
  typeNames : List (SemanticType × String)
  /-- The marks in front of and behind a quoted identifier. -/
  quoteMarks : String × String
  /-- The words, in lower case, that are quoted when they are identifiers. -/
  reserved : List String
  /-- The expression for today's date. -/
  today : String
  /-- The words that begin the creation of a view. -/
  createView : String
  /-- The operator that compares a text with a pattern. -/
  likeOperator : String
  deriving DecidableEq, Repr

/-- A semantic type for which a dialect has no column type. -/
structure MissingType where
  type : SemanticType
  deriving DecidableEq, Repr

namespace Dialect

/-- Whether an identifier is a reserved word, in any case. -/
def isReserved (d : Dialect) (identifier : String) : Bool :=
  d.reserved.contains (String.ofList (lower identifier.toList))

/-- An identifier as it is written, in quotes only when it is a reserved word. -/
def quote (d : Dialect) (identifier : String) : String :=
  if d.isReserved identifier then d.quoteMarks.1 ++ identifier ++ d.quoteMarks.2 else identifier

/-- The column type for a semantic type. -/
def typeName (d : Dialect) (type : SemanticType) : Except MissingType String :=
  match d.typeNames.find? (·.1 == type) with
  | some (_, name) => .ok name
  | none => .error { type }

/-! ## Reading a dialect -/

/-- The column types given by an object from semantic types to their names. -/
def checkTypeNames : Json → Checked (List (SemanticType × String))
  | .object members => Checked.all (members.map fun (name, value) =>
      let type : Checked SemanticType :=
        match SemanticType.ofName? name with
        | some t => .fits t
        | none => (Checked.defect .notMember).within "[key]"
      (Prod.mk <$> type <*> value.checkText).within name)
  | _ => .defect .notObject

/-- Reads a dialect from a record.  Name, grammar and column types must be there. -/
def ofJson (j : Json) : Checked Dialect :=
  Dialect.mk <$> j.checkField "name" Json.checkText
    <*> j.checkField "grammar" Json.checkText
    <*> j.checkField "type_map" checkTypeNames
    <*> j.checkFieldOr "identifier_quote" ("\"", "\"") Json.checkTextPair
    <*> j.checkFieldOr "reserved_words" [] (Json.checkList Json.checkText)
    <*> j.checkFieldOr "current_date" "CURRENT_DATE" Json.checkText
    <*> j.checkFieldOr "create_view" "CREATE VIEW" Json.checkText
    <*> j.checkFieldOr "like_operator" "LIKE" Json.checkText

/-! ## The usual dialects -/

/-- Words that are quoted in every dialect. -/
def commonReserved : List String :=
  ["all", "and", "as", "asc", "between", "by", "case", "check", "column", "constraint", "create",
   "cross", "current_date", "date", "default", "delete", "desc", "distinct", "drop", "else", "end",
   "exists", "foreign", "from", "full", "group", "having", "in", "index", "inner", "insert", "into",
   "is", "join", "key", "left", "like", "limit", "not", "null", "on", "or", "order", "outer",
   "primary", "references", "right", "select", "set", "table", "then", "to", "union", "unique",
   "update", "user", "using", "values", "view", "when", "where", "with"]

/-- Column types, in the order of semantic types. -/
def typesNamed (string date number reference : String) : List (SemanticType × String) :=
  [(.string, string), (.date, date), (.number, number), (.reference, reference)]

/-- The dialect of PostgreSQL. -/
def postgres : Dialect :=
  { name := "postgres", grammar := "postgres", typeNames := typesNamed "TEXT" "DATE" "NUMERIC" "TEXT"
    quoteMarks := ("\"", "\"")
    reserved := commonReserved ++ ["analyse", "analyze", "offset", "returning"]
    today := "CURRENT_DATE", createView := "CREATE OR REPLACE VIEW", likeOperator := "LIKE" }

/-- The dialect of MySQL. -/
def mysql : Dialect :=
  { name := "mysql", grammar := "mysql"
    typeNames := typesNamed "VARCHAR(255)" "DATE" "DECIMAL(18, 4)" "VARCHAR(255)"
    quoteMarks := ("`", "`")
    reserved := commonReserved ++ ["condition", "interval", "rank"]
    today := "CURRENT_DATE()", createView := "CREATE OR REPLACE VIEW", likeOperator := "LIKE" }

/-- The dialect of SQLite. -/
def sqlite : Dialect :=
  { name := "sqlite", grammar := "sqlite", typeNames := typesNamed "TEXT" "DATE" "NUMERIC" "TEXT"
    quoteMarks := ("\"", "\"")
    reserved := commonReserved ++ ["abort", "glob", "offset"]
    today := "DATE('now')", createView := "CREATE VIEW IF NOT EXISTS", likeOperator := "LIKE" }

/-- The usual dialects. -/
def usual : List Dialect :=
  [postgres, mysql, sqlite]

/-- The usual dialects have a column type for every semantic type. -/
theorem typeName_usual {d : Dialect} (mem : d ∈ usual) (type : SemanticType) :
    ∃ name, d.typeName type = .ok name := by
  simp only [usual, List.mem_cons, List.not_mem_nil, or_false] at mem
  rcases mem with rfl | rfl | rfl <;> cases type <;> exact ⟨_, rfl⟩

end Dialect

end FactModel
