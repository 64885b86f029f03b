import FactModel.Sql.Token

/-!
# Arguments of known functions

How many arguments a function may have, which of them names a unit of time, and which are looked at.
Functions that no table holds may have any arguments.
-/

namespace FactModel.Sql

/-- What is known of the arguments of a function. -/
structure Signature where
  /-- The fewest arguments. -/
  least : Nat
  /-- The most arguments, if there is a most. -/
  most : Option Nat
  /-- The place of the argument that may name a unit of time. -/
  unit : Option Nat
  /-- The places of the arguments that are looked at, in that order, if it is not the order in which all
  of them are written. -/
  order : Option (List Nat)
  /-- The number of constructs between the function and its arguments. -/
  depth : Nat
  deriving DecidableEq, Repr

/-- Functions by the fewest and the most of their arguments. -/
def argumentCounts : List (Nat × Option Nat × List String) :=
  [(0, none, ["CEIL", "COUNT", "DATE", "FLOOR"]),
   (0, some 1, ["LOG10", "LOG2", "ROW_NUMBER"]),
   (0, some 2, ["TIME"]),
   (0, some 3, ["RAND", "RANDOM", "TIMESTAMP"]),
   (1, none, ["ARRAY_CAT", "ARRAY_CONCAT", "COALESCE", "CONCAT", "CONCAT_WS", "GREATEST", "IFNULL",
     "LEAST", "MAX", "MIN", "NVL", "UNNEST"]),
   (1, some 1, ["ABS", "ANY_VALUE", "ASCII", "AVG", "BOOL_AND", "BOOL_OR", "CBRT", "COUNTIF",
     "COUNT_IF", "DAY", "DAYOFMONTH", "DAYOFWEEK", "DAYOFYEAR", "DAY_OF_MONTH", "DAY_OF_WEEK",
     "DAY_OF_YEAR", "EXP", "FIRST_VALUE", "FROM_BASE64", "HEX", "ISINF", "ISNAN", "IS_INF",
     "IS_NAN", "LAST_VALUE", "LCASE", "LN", "LOGICAL_AND", "LOGICAL_OR", "LOWER", "MD5", "MEDIAN",
     "MONTH", "SHA", "SHA1", "SIGN", "SIGNUM", "SQRT", "STDDEV", "STDDEV_POP", "STDDEV_SAMP",
     "STDEV", "SUM", "TO_BASE64", "TO_HEX", "UCASE", "UNICODE", "UPPER", "VARIANCE", "VARIANCE_POP",
     "VARIANCE_SAMP", "VAR_POP", "VAR_SAMP", "WEEKOFYEAR", "WEEK_OF_YEAR", "YEAR"]),
   (1, some 2, ["ARRAY_AGG", "ARRAY_LENGTH", "ARRAY_SIZE", "DATETIME", "INITCAP", "LAST_DAY",
     "LAST_DAY_OF_MONTH", "LOG", "PERCENTILE_CONT", "PERCENTILE_DISC", "SHA2", "WEEK"]),
   (1, some 3, ["CEILING", "CHARACTER_LENGTH", "CHAR_LENGTH", "GROUP_CONCAT", "LAG", "LEAD", "LEN",
     "LENGTH", "ROUND", "SUBSTR"]),
   (1, some 4, ["LTRIM", "RTRIM"]),
   (2, none, ["ARGMAX", "ARGMIN", "ARG_MAX", "ARG_MIN", "DATEDIFF", "DATE_DIFF", "DECODE", "GLOB",
     "JSON_EXTRACT", "LIKE", "MAX_BY", "MIN_BY", "MOD", "NTH_VALUE"]),
   (2, some 2, ["CORR", "COVAR_POP", "COVAR_SAMP", "LEFT", "NULLIF", "POW", "POWER", "REPEAT",
     "RIGHT", "STARTSWITH", "STARTS_WITH"]),
   (2, some 3, ["ARRAY_JOIN", "ARRAY_TO_STRING", "DATETIME_ADD", "DATETIME_DIFF", "DATETIME_SUB",
     "DATETIME_TRUNC", "DATE_ADD", "DATE_SUB", "DATE_TRUNC", "IIF", "NVL2", "REGEXP_LIKE",
     "TIMESTAMPDIFF", "TIMESTAMP_ADD", "TIMESTAMP_DIFF", "TIMESTAMP_SUB", "TIMESTAMP_TRUNC",
     "TIME_ADD", "TIME_DIFF", "TIME_SUB", "TIME_TRUNC", "TS_OR_DS_DIFF"]),
   (2, some 4, ["CHARINDEX", "DATE_BIN", "GENERATE_SERIES", "INSTR", "LEFTPAD", "LOCATE", "LPAD",
     "RIGHTPAD", "RPAD", "STRPOS", "STR_POSITION", "TS_OR_DS_ADD"]),
   (3, some 3, ["SUBSTRING_INDEX"]),
   (4, some 4, ["INSERT", "STUFF"])]

/-- Functions that a grammar knows in another way than most grammars. -/
def ownArgumentCounts : Grammar → List (Nat × Option Nat × List String)
  | .postgres => [(1, some 3, ["TO_DATE"]), (1, none, ["TO_TIMESTAMP"]), (2, some 4, ["TO_CHAR"])]
  | .mysql =>
    [(0, none, ["ISNULL", "TO_DAYS"]),
     (0, some 1, ["DAY", "DAYOFMONTH", "DAYOFWEEK", "DAYOFYEAR", "MONTH", "WEEKOFYEAR", "YEAR"]),
     (0, some 2, ["WEEK"]), (0, some 4, ["MONTHNAME"]), (1, some 3, ["DATE"]), (2, some 4,
       ["DATE_FORMAT"]),
     (3, some 4, ["CONVERT_TZ"])]
  | .sqlite | .plain => []

/-- Functions of which a grammar knows nothing though most grammars do. -/
def unknownFunctions : Grammar → List String
  | .sqlite => ["DATETIME", "TIME"]
  | _ => []

/-- The places of arguments that may name a unit of time. -/
def unitPlaces : List (Nat × List String) :=
  [(0, ["DATE_TRUNC"]),
   (1, ["DATETIME_TRUNC", "LAST_DAY", "LAST_DAY_OF_MONTH", "TIMESTAMP_TRUNC", "TIME_TRUNC"]),
   (2, ["DATEDIFF", "DATETIME_ADD", "DATETIME_DIFF", "DATETIME_SUB", "DATE_ADD", "DATE_BIN",
     "DATE_DIFF", "DATE_SUB", "TIMESTAMPDIFF", "TIMESTAMP_ADD", "TIMESTAMP_DIFF", "TIMESTAMP_SUB",
     "TIME_ADD", "TIME_DIFF", "TIME_SUB", "TS_OR_DS_ADD", "TS_OR_DS_DIFF"])]

/-- The arguments that are looked at, in that order, where it is not the order in which all of them are
written. -/
def argumentOrders : List (List Nat × List String) :=
  [([0, 1], ["CEIL", "FLOOR", "LTRIM", "MOD", "RTRIM"]),
   ([0, 1, 2], ["ARGMAX", "ARGMIN", "ARG_MAX", "ARG_MIN", "LEFTPAD", "LPAD", "MAX_BY", "MIN_BY",
     "RIGHTPAD", "RPAD"]),
   ([1, 0, 2], ["CHARINDEX", "GLOB", "LIKE", "LOCATE"])]

/-- The arguments that a grammar looks at in another order than most grammars. -/
def ownArgumentOrders : Grammar → List (List Nat × List String)
  | .postgres => [([0, 1], ["LENGTH", "TO_CHAR", "TO_DATE"]), ([1, 0], ["DATE_TRUNC"])]
  | .mysql =>
    [([0], ["DATE", "DAY", "DAYOFMONTH", "DAYOFWEEK", "DAYOFYEAR", "ISNULL", "LENGTH", "MONTH",
       "MONTHNAME", "TO_DAYS", "WEEKOFYEAR", "YEAR"]),
     ([0, 1], ["DATE_FORMAT"]), ([2, 1, 0], ["TIMESTAMPDIFF"]), ([1, 2, 0], ["CONVERT_TZ"])]
  | .sqlite | .plain => []

/-- Functions of a grammar whose arguments stand deeper than right behind the function. -/
def deepFunctions : Grammar → List (Nat × List String)
  | .mysql =>
    [(1, ["DAY", "DAYOFMONTH", "DAYOFWEEK", "DAYOFYEAR", "ISNULL", "MONTH", "MONTHNAME", "WEEK",
       "WEEKOFYEAR", "YEAR"]),
     (3, ["TO_DAYS"])]
  | _ => []

/-- What a table holds for a function. -/
def lookUp {α : Type} (table : List (α × List String)) (word : String) : Option α :=
  (table.find? fun (_, words) => words.contains word).map (·.1)

/-- What a grammar knows of the arguments of a function, if it knows the function. -/
def signature? (g : Grammar) (word : String) : Option Signature := do
  let counts := (ownArgumentCounts g ++ argumentCounts).map fun (least, most, words) =>
    ((least, most), words)
  let (least, most) ← if (unknownFunctions g).contains word then none else lookUp counts word
  let unit := if g = .mysql ∧ word = "TIMESTAMPDIFF" then some 0 else lookUp unitPlaces word
  return { least, most, unit, order := lookUp (ownArgumentOrders g ++ argumentOrders) word
           depth := (lookUp (deepFunctions g) word).getD 0 }

/-- Whether a function may have so many arguments. -/
def Signature.admits (s : Signature) (count : Nat) : Bool :=
  s.least ≤ count && s.most.all (count ≤ ·)

/-- A function that may have some number of arguments may have any larger one up to its most. -/
theorem Signature.admits_of_le (s : Signature) (m n k : Nat) (hm : s.admits m) (hk : s.admits k)
    (hmn : m ≤ n) (hnk : n ≤ k) : s.admits n := by
  cases h : s.most with
  | none => simp_all [Signature.admits]; omega
  | some most => simp_all [Signature.admits]; omega

end FactModel.Sql
