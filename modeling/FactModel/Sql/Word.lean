import FactModel.Sql.References

/-!
# Words of queries

Which words may be names, which begin special forms, and what names in a row come to.
-/

namespace FactModel.Sql

/-- Words that are never names. -/
def keywords : List String :=
  ["ALTER", "AND", "AS", "BETWEEN", "CREATE", "CROSS", "DISTINCT", "DROP", "ELSE", "EXCEPT", "FETCH",
   "FOR", "FROM", "GLOB", "GRANT", "HAVING", "ILIKE", "IN", "INNER", "INSERT", "INTERSECT", "INTO",
   "JOIN", "LATERAL", "LIKE", "NOT", "NOTNULL", "ON", "OR", "OUTER", "OVER", "QUALIFY", "REGEXP",
   "RETURNING", "REVOKE", "RLIKE", "ROLLBACK", "SELECT", "STRAIGHT_JOIN", "TABLESAMPLE", "THEN",
   "UNCACHE", "UNION", "USING", "VALUES", "WHEN", "WHERE", "WITH", "XOR"]

/-- Whether a word may be a name. -/
def mayBeName (word : String) : Bool :=
  !keywords.contains (upper word) && !word.contains ' '

/-- Names that cannot follow a table without a word for it, because they begin a join or a clause. -/
def joinNames : List String :=
  ["ANTI", "ASOF", "FULL", "LEFT", "LOCK", "NATURAL", "RIGHT", "SEMI", "WINDOW"]

/-- Words that stand for values. -/
def valueWords : List String :=
  ["NULL", "TRUE", "FALSE", "CURRENT_DATE", "CURRENT_DATETIME", "CURRENT_TIME", "CURRENT_TIMESTAMP",
   "CURRENT_USER", "LOCALTIME", "LOCALTIMESTAMP"]

/-- The names of types. -/
def typeWords : List String :=
  ["ARRAY", "BIGINT", "BIGSERIAL", "BINARY", "BIT", "BLOB", "BOOL", "BOOLEAN", "BPCHAR", "BYTEA",
   "CHAR", "CHAR VARYING", "CHARACTER", "CHARACTER VARYING", "DATE", "DATETIME", "DATERANGE", "DEC",
   "DECIMAL", "DOUBLE", "DOUBLE PRECISION", "ENUM", "FIXED", "FLOAT", "FLOAT4", "FLOAT8", "GEOGRAPHY",
   "GEOMETRY", "HSTORE", "INET", "INT", "INT1", "INT16", "INT2", "INT4", "INT8", "INTEGER", "INTERVAL",
   "JSON", "JSONB", "LIST", "LONG", "LONGBLOB", "LONGTEXT", "MAP", "MEDIUMBLOB", "MEDIUMINT",
   "MEDIUMTEXT", "MONEY", "NAME", "NCHAR", "NUMERIC", "NVARCHAR", "NVARCHAR2", "OBJECT", "REAL",
   "ROWVERSION", "SERIAL", "SHORT", "SIGNED", "SMALLINT", "SMALLSERIAL", "STRING", "STRUCT", "TEXT",
   "TIME", "TIMESTAMP", "TIMESTAMPTZ", "TIMETZ", "TINYBLOB", "TINYINT", "TINYTEXT", "UBIGINT",
   "UINT", "UNSIGNED", "USMALLINT", "UTINYINT", "UUID", "VARBINARY", "VARBIT", "VARCHAR", "VARCHAR2",
   "VARIANT", "XML", "YEAR"]

/-- The kinds of things that are made and dropped. -/
def kindWords : List String :=
  ["COLUMN", "CONSTRAINT", "DATABASE", "FOREIGN KEY", "FUNCTION", "INDEX", "MODEL", "PROCEDURE",
   "SCHEMA", "SEQUENCE", "SINK", "SOURCE", "STAGE", "STORAGE INTEGRATION", "STREAMLIT", "TABLE",
   "TAG", "VIEW", "WAREHOUSE", "TRIGGER", "TYPE"]

/-- A name, quoted or not. -/
def nameAt : List Token → Option (String × List Token)
  | .name n :: rest => some (n, rest)
  | .word w :: rest => if mayBeName w then some (w, rest) else none
  | _ => none

/-- A name, or a text in its place. -/
def nameOrText : List Token → Option (String × List Token)
  | .text value :: rest => some (value, rest)
  | ts => nameAt ts

/-- The name that any token gives: a word of any kind, a name, a text, a number or a sign of several
characters. -/
def anyName : List Token → Option (String × List Token)
  | .word w :: rest => if upper w = "SELECT" then none else some (w, rest)
  | .name n :: rest => some (n, rest)
  | .text value :: rest => some (value, rest)
  | .number digits :: rest => some (digits, rest)
  | .sign mark :: rest => if mark.length = 1 then none else some (mark, rest)
  | [] => none

/-- Whether a word is the end of a clause that limits rows.  Such a word is a name only where no
clause can be read. -/
def beginsLimit (ts : List Token) : Bool :=
  startsWith ["LIMIT", "OFFSET"] ts

/-- What remains behind names between commas in parentheses, if such a list stands at the front. -/
def skipNames (ts : List Token) : Option (List Token) :=
  (skipSign "(" ts).bind fun rest => go rest.length rest
where
  /-- What remains behind the names, a comma between them, and the closing parenthesis. -/
  go : (bound : Nat) → List Token → Option (List Token)
    | 0, _ => none
    | bound + 1, ts => do
      let (_, rest) ← nameOrText ts
      match skipSign "," rest with
      | some rest => go bound rest
      | none => skipSign ")" rest

end FactModel.Sql
