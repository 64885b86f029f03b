import FactModel.Text.Blank
import FactModel.Text.Word

/-!
# Tokens of queries

Reading the text of a query back into tokens.  Grammars differ in how texts and names are quoted,
in whether a backslash escapes inside a text, in how comments begin, and in which numbers and texts
have a special form.
-/

namespace FactModel.Sql

open FactModel.Text

/-- A token of a query. -/
inductive Token where
  /-- A keyword or a name without quotes.  Keywords of two words are one token, in upper case and
  with one space. -/
  | word (text : String)
  /-- A name between quotes. -/
  | name (text : String)
  | text (value : String)
  /-- A number, or a text of a special form that stands for a value as a number does. -/
  | number (digits : String)
  /-- An operator or a punctuation mark. -/
  | sign (mark : String)
  deriving DecidableEq, Repr

/-- The grammars that are told apart. -/
inductive Grammar where
  | plain
  | postgres
  | mysql
  | sqlite
  deriving DecidableEq, Repr

/-- The grammar of a given name. -/
def Grammar.ofName (name : String) : Grammar :=
  match name with
  | "postgres" => .postgres
  | "mysql" => .mysql
  | "sqlite" => .sqlite
  | _ => .plain

/-- A special form of texts, told by the letter in front of their opening mark. -/
inductive TextForm where
  /-- Any characters. -/
  | any
  /-- Any characters, which a backslash may escape. -/
  | escaped
  /-- Digits to a base. -/
  | digits (base : Nat)
  deriving DecidableEq, Repr

/-- How a grammar forms tokens. -/
structure Lexis where
  /-- The marks around texts. -/
  textMarks : List Char
  /-- The marks around names. -/
  nameMarks : List (Char × Char)
  /-- Whether a backslash in a text escapes the character behind it. -/
  backslash : Bool
  /-- The letters in front of texts of a special form. -/
  textForms : List (Char × TextForm)
  /-- Whether a number sign begins a comment. -/
  signComments : Bool
  /-- Whether two dashes begin a comment only in front of white space. -/
  spacedDashes : Bool
  /-- Whether comments may hold comments. -/
  nestedComments : Bool
  /-- Whether names may begin with digits. -/
  digitNames : Bool
  /-- The signs that may stand inside a word. -/
  wordSigns : List Char
  /-- The letters behind a zero at the front of numbers to another base. -/
  baseLetters : List (Char × Nat)
  /-- Whether texts may stand between tags in dollar signs. -/
  dollarTexts : Bool
  /-- The further signs of several characters, longer ones first. -/
  longSigns : List String
  /-- The further keywords of two words. -/
  wordPairs : List (String × String)

/-- The way most grammars form tokens. -/
def Lexis.plain : Lexis :=
  { textMarks := ['\''], nameMarks := [('"', '"')], backslash := false, textForms := [('n', .any)]
    signComments := false, spacedDashes := false, nestedComments := true, digitNames := false
    wordSigns := [], baseLetters := [], dollarTexts := false, longSigns := []
    wordPairs := [] }

/-- The way a grammar forms tokens. -/
def Lexis.ofGrammar : Grammar → Lexis
  | .plain => .plain
  | .postgres =>
    { Lexis.plain with
      textForms := [('n', .any), ('u', .any), ('e', .escaped), ('b', .digits 2), ('x', .digits 16)]
      wordSigns := ['$'], baseLetters := [('b', 2), ('x', 16)], dollarTexts := true
      longSigns := ["||/", "-|-", "#-", "&<", "&>", "<@", "?&", "?|", "@>", "@@", "|/"] }
  | .mysql =>
    { textMarks := ['\'', '"'], nameMarks := [('`', '`')], backslash := true
      textForms := [('n', .escaped), ('b', .digits 2), ('x', .digits 16)]
      signComments := true, spacedDashes := true, nestedComments := false, digitNames := true
      wordSigns := ['@'], baseLetters := [('b', 2), ('x', 16)], dollarTexts := false
      longSigns := []
      wordPairs := [("LOCK", "TABLES"), ("MEMBER", "OF"), ("SOUNDS", "LIKE"), ("UNLOCK", "TABLES")] }
  | .sqlite =>
    { Lexis.plain with
      nameMarks := [('"', '"'), ('[', ']'), ('`', '`')]
      textForms := [('n', .any), ('x', .digits 16)]
      nestedComments := false, baseLetters := [('x', 16)] }

/-! ## Texts and names -/

/-- What a backslash and the character behind it stand for.  In front of a wildcard of patterns the
backslash is kept, for a pattern to read. -/
def escaped (c : Char) : List Char :=
  match c with
  | 'n' => ['\n']
  | 'r' => ['\r']
  | 't' => ['\t']
  | 'b' => ['\x08']
  | '0' => ['\x00']
  | 'Z' => ['\x1a']
  | '%' | '_' => ['\\', c]
  | _ => [c]

/-- Reads a text behind its opening mark up to its closing one: the text, and what remains.  A mark
written twice stands for one. -/
def readText (backslash : Bool) (mark : Char) : List Char → Option (List Char × List Char)
  | [] => none
  | [c] => if c = mark then some ([], []) else none
  | c :: d :: rest =>
    if c = mark then
      if d = mark then (readText backslash mark rest).map fun (value, after) => (mark :: value, after)
      else some ([], d :: rest)
    else if backslash ∧ c = '\\' then
      (readText backslash mark rest).map fun (value, after) => (escaped d ++ value, after)
    else
      (readText backslash mark (d :: rest)).map fun (value, after) => (c :: value, after)

/-- The value of a digit to a base up to sixteen. -/
def digitValue? (c : Char) : Option Nat :=
  if c.isDigit then some (c.toNat - '0'.toNat)
  else if 'a' ≤ c.toLower ∧ c.toLower ≤ 'f' then some (c.toLower.toNat - 'a'.toNat + 10)
  else none

/-- Whether all characters are digits to a base. -/
def areDigits (base : Nat) (cs : List Char) : Bool :=
  cs.all fun c => (digitValue? c).any (· < base)

/-- Reads a text of a special form behind its opening mark. -/
def readFormed (form : TextForm) (mark : Char) (cs : List Char) :
    Option (List Char × List Char) :=
  match form with
  | .any => readText false mark cs
  | .escaped => readText true mark cs
  | .digits base => (readText false mark cs).filter fun (value, _) => areDigits base value

/-- What stands up to a closing tag and behind it. -/
def splitAtTag (tag : List Char) : List Char → Option (List Char × List Char)
  | [] => if tag = [] then some ([], []) else none
  | c :: cs =>
    if tag.isPrefixOf (c :: cs) then some ([], (c :: cs).drop tag.length)
    else (splitAtTag tag cs).map fun (value, after) => (c :: value, after)

/-- Reads a text between tags behind its first dollar sign.  A dollar sign that begins no tag is a sign
of its own. -/
def readDollar (cs : List Char) : Option (Token × List Char) :=
  let tag := cs.takeWhile (· ≠ '$')
  match cs.drop tag.length with
  | _ :: body =>
    if tag ≠ [] ∧ (tag.all Char.isDigit ∨ tag.any isSpace) then some (.sign "$", cs)
    else
      (splitAtTag ('$' :: tag ++ ['$']) body).map fun (value, rest) =>
        (.number (String.ofList value), rest)
  | [] => some (.sign "$", cs)

/-! ## Comments -/

/-- Whether a character ends a line of a query. -/
def endsLine (c : Char) : Bool :=
  c == '\n' || c == '\r'

/-- What follows the rest of a line. -/
def afterLine (cs : List Char) : List Char :=
  cs.dropWhile (!endsLine ·)

/-- What follows a comment between a slash with an asterisk and an asterisk with a slash, inside of
`depth` others; none when it does not end. -/
def afterComment (nested : Bool) : (depth : Nat) → List Char → Option (List Char)
  | _, [] => none
  | depth, '*' :: '/' :: rest =>
    match depth with
    | 0 => some rest
    | depth + 1 => afterComment nested depth rest
  | depth, '/' :: '*' :: rest => afterComment nested (if nested then depth + 1 else depth) rest
  | depth, _ :: rest => afterComment nested depth rest

/-! ## Words, numbers and signs -/

/-- The characters that are tokens of their own or begin tokens of a special form. -/
def signs : List Char :=
  "()[]{}&^:,-+*%!./\\=<>|~?@$#;'\"`".toList

/-- The signs of several characters in any grammar, longer ones first. -/
def commonSigns : List String :=
  ["#>>", "->>", "<->", "<=>", "~~*", "~~~", "#>", "&&", "->", ":=", "::", "<=", "<>", "==", "=>", "!=",
   ">=", "??", "||", "~*", "~~"]

/-- Whether a character may stand inside a word. -/
def Lexis.isWordChar (l : Lexis) (c : Char) : Bool :=
  !isSpace c && (!signs.contains c || l.wordSigns.contains c)

/-- Whether a character ends a number because a word begins there. -/
def beginsWord (c : Char) : Bool :=
  isWord c && !isDecimal c

/-- A word in upper case. -/
def upper (word : String) : String :=
  String.ofList (word.toList.map Char.toUpper)

/-- Reads a number at the front: a whole part, perhaps a point and a fraction, and perhaps an
exponent. -/
def readNumber (cs : List Char) : List Char × List Char :=
  let whole := cs.takeWhile Char.isDigit
  let behind := cs.drop whole.length
  let fraction :=
    if behind.head? = some '.' then '.' :: (behind.drop 1).takeWhile Char.isDigit else []
  let behind := behind.drop fraction.length
  let exponent := match behind with
    | e :: sign :: d :: rest =>
      if (e = 'e' ∨ e = 'E') ∧ (sign = '+' ∨ sign = '-') ∧ d.isDigit then
        e :: sign :: (d :: rest).takeWhile Char.isDigit
      else if e = 'e' ∨ e = 'E' then e :: (sign :: d :: rest).takeWhile Char.isDigit
      else []
    | e :: rest => if e = 'e' ∨ e = 'E' then e :: rest.takeWhile Char.isDigit else []
    | [] => []
  (whole ++ fraction ++ exponent, behind.drop exponent.length)

/-- Reads a token that begins with a digit: a number to the base ten or another, or a name where names
may begin so. -/
def readDigits (l : Lexis) (cs : List Char) : Token × List Char :=
  let word := cs.takeWhile fun c => !isSpace c && !signs.contains c
  let base := match cs with
    | '0' :: letter :: _ => (l.baseLetters.find? (·.1 == letter.toLower)).map (·.2)
    | _ => none
  match base with
  | some base =>
    let digits := word.drop 2
    let text := String.ofList word
    (if digits ≠ [] ∧ areDigits base digits then .number text else .name text, cs.drop word.length)
  | none =>
    let (digits, rest) := readNumber cs
    if rest.head?.any beginsWord ∧ l.digitNames then
      let tail := rest.takeWhile fun c => !isSpace c && !signs.contains c
      (.word (String.ofList (digits ++ tail)), rest.drop tail.length)
    else (.number (String.ofList digits), rest)

/-- The keywords of two words in any grammar. -/
def commonPairs : List (String × String) :=
  [("BY", "DEFAULT"), ("CHARACTER", "SET"), ("CHAR", "VARYING"), ("CHARACTER", "VARYING"),
   ("CLUSTER", "BY"), ("CONNECT", "BY"), ("DISTRIBUTE", "BY"), ("DOUBLE", "PRECISION"),
   ("FOREIGN", "KEY"), ("GROUP", "BY"), ("GROUPING", "SETS"), ("INDEXED", "BY"),
   ("NOT", "DETERMINISTIC"), ("ORDER", "BY"), ("PARTITION", "BY"), ("PRIMARY", "KEY"),
   ("SIMILAR", "TO"), ("SORT", "BY"), ("START", "WITH")]

/-- Reads a word, or two words that make up a keyword. -/
def readWord (l : Lexis) (cs : List Char) : Token × List Char :=
  let first := cs.takeWhile l.isWordChar
  let behind := cs.drop first.length
  let gap := behind.takeWhile isSpace
  let next := (behind.drop gap.length).takeWhile l.isWordChar
  let pair := (upper (String.ofList first), upper (String.ofList next))
  if gap ≠ [] ∧ (commonPairs ++ l.wordPairs).contains pair then
    (.word (pair.1 ++ " " ++ pair.2), behind.drop (gap.length + next.length))
  else (.word (String.ofList first), behind)

/-- Reads the longest sign at the front. -/
def readSign (l : Lexis) (c : Char) (cs : List Char) : Token × List Char :=
  let longer := (l.longSigns ++ commonSigns).filter fun mark => mark.toList.isPrefixOf (c :: cs)
  let three := longer.find? fun mark => mark.length = 3
  match three.or longer.head? with
  | some mark => (.sign mark, (c :: cs).drop mark.length)
  | none => (.sign (String.singleton c), cs)

/-- The special form of a text whose opening mark stands behind a letter. -/
def Lexis.formOf? (l : Lexis) (c : Char) (cs : List Char) : Option (TextForm × Char × List Char) :=
  let rest := if c.toLower = 'u' then (if cs.head? = some '&' then cs.drop 1 else []) else cs
  match rest with
  | mark :: body =>
    if l.textMarks.contains mark then
      (l.textForms.find? (·.1 == c.toLower)).map fun (_, form) => (form, mark, body)
    else none
  | [] => none

/-- Reads one token at the front, where no blank and no comment stands; none when a text or a quoted
name does not end. -/
def readToken (l : Lexis) (c : Char) (cs : List Char) : Option (Token × List Char) :=
  if c.isDigit then some (readDigits l (c :: cs))
  else if l.textMarks.contains c then
    (readText l.backslash c cs).map fun (value, rest) => (.text (String.ofList value), rest)
  else
    match l.nameMarks.find? (·.1 == c), l.formOf? c cs with
    | some (_, close), _ =>
      (readText false close cs).map fun (value, rest) => (.name (String.ofList value), rest)
    | none, some (form, mark, body) =>
      (readFormed form mark body).map fun (value, rest) => (.number (String.ofList value), rest)
    | none, none =>
      if l.dollarTexts ∧ c = '$' then readDollar cs
      else some (if signs.contains c then readSign l c cs else readWord l (c :: cs))

/-- What follows a comment at the front; an inner none when it does not end, an outer one when no
comment stands there. -/
def skipComment (l : Lexis) : List Char → Option (Option (List Char))
  | '-' :: '-' :: rest =>
    if l.spacedDashes ∧ rest.head?.any (!isSpace ·) then none else some (some (afterLine rest))
  | '/' :: '*' :: rest => some (afterComment l.nestedComments 0 rest)
  | '#' :: rest => if l.signComments then some (some (afterLine rest)) else none
  | _ => none

/-- Reads all tokens; none when a text, a quoted name or a comment does not end.  The bound is on the
number of reading steps. -/
def readTokens (l : Lexis) : (bound : Nat) → List Char → Option (List Token)
  | 0, _ => some []
  | _ + 1, [] => some []
  | bound + 1, c :: rest =>
    if isSpace c then readTokens l bound rest
    else
      match skipComment l (c :: rest) with
      | some after => after.bind (readTokens l bound)
      | none => do
        let (token, rest) ← readToken l c rest
        let tokens ← readTokens l bound rest
        return token :: tokens

/-- The tokens of a query. -/
def tokens (l : Lexis) (query : String) : Option (List Token) :=
  readTokens l (query.length + 1) query.toList

end FactModel.Sql
