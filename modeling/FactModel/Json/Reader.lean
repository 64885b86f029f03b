import FactModel.Json.Basic

/-!
# Reading JSON

A reader that reports what it expected and where.  A place is the number of characters in front of
it; as the text is read from the front, a place is known from what remains of the text.
-/

namespace FactModel

namespace Json

/-- What is wrong with a text that is no JSON. -/
inductive Fault where
  | byteOrderMark
  | value
  | propertyName
  | colon
  | comma
  | openText
  | controlCharacter
  | escape
  | unicodeEscape
  | extraData
  deriving DecidableEq, Repr

/-- The wording of a fault. -/
def Fault.message : Fault → String
  | .byteOrderMark => "Unexpected UTF-8 BOM (decode using utf-8-sig)"
  | .value => "Expecting value"
  | .propertyName => "Expecting property name enclosed in double quotes"
  | .colon => "Expecting ':' delimiter"
  | .comma => "Expecting ',' delimiter"
  | .openText => "Unterminated string starting at"
  | .controlCharacter => "Invalid control character at"
  | .escape => "Invalid \\escape"
  | .unicodeEscape => "Invalid \\uXXXX escape"
  | .extraData => "Extra data"

/-- Why a text is not read as JSON. -/
inductive ReadFailure where
  /-- A fault, and how many characters remained where it was found. -/
  | fault (fault : Fault) (remaining : Nat)
  /-- An integer with too many digits. -/
  | count (error : CountError)
  deriving DecidableEq, Repr

/-- Fails at the front of what remains. -/
def failAt {α : Type} (fault : Fault) (rest : List Char) : Except ReadFailure α :=
  .error (.fault fault rest.length)

/-- The blanks that may stand between the parts of a value. -/
def isGap (c : Char) : Bool :=
  c == ' ' || c == '\t' || c == '\n' || c == '\r'

/-- Drops the blanks at the front. -/
def skipGap (cs : List Char) : List Char :=
  cs.dropWhile isGap

/-! ## Texts -/

/-- The value of a hexadecimal digit. -/
def hexValue? (c : Char) : Option Nat :=
  if c.isDigit then some (c.toNat - '0'.toNat)
  else if 'a' ≤ c ∧ c ≤ 'f' then some (c.toNat - 'a'.toNat + 10)
  else if 'A' ≤ c ∧ c ≤ 'F' then some (c.toNat - 'A'.toNat + 10)
  else none

/-- The code unit written by four hexadecimal digits that do not end the text. -/
def hexUnit? : List Char → Option (Nat × List Char)
  | a :: b :: c :: d :: next :: rest => do
    let a ← hexValue? a
    let b ← hexValue? b
    let c ← hexValue? c
    let d ← hexValue? d
    return (((a * 16 + b) * 16 + c) * 16 + d, next :: rest)
  | _ => none

/-- Whether a code unit is the first half of a pair. -/
def isHighHalf (n : Nat) : Bool :=
  0xD800 ≤ n && n < 0xDC00

/-- Whether a code unit is the second half of a pair. -/
def isLowHalf (n : Nat) : Bool :=
  0xDC00 ≤ n && n < 0xE000

/-- The character of a code unit; a half without its other half becomes the replacement
character. -/
def unitChar (n : Nat) : Char :=
  if isHighHalf n || isLowHalf n then '\uFFFD' else Char.ofNat n

/-- Reads the character written by code units, `cs` following the letter `u` of an escape. -/
def unicodeEscape (cs : List Char) : Except ReadFailure (Char × List Char) :=
  match hexUnit? cs with
  | none => .error (.fault .unicodeEscape (cs.length + 1))
  | some (high, rest) =>
    match rest with
    | '\\' :: 'u' :: tail =>
      if isHighHalf high && 4 < tail.length then
        match hexUnit? tail with
        | none => .error (.fault .unicodeEscape (tail.length + 1))
        | some (low, after) =>
          if isLowHalf low then
            .ok (Char.ofNat (0x10000 + (high - 0xD800) * 0x400 + (low - 0xDC00)), after)
          else .ok (unitChar high, rest)
      else .ok (unitChar high, rest)
    | _ => .ok (unitChar high, rest)

/-- The character that a simple escape stands for. -/
def simpleEscape? (c : Char) : Option Char :=
  match c with
  | '"' | '\\' | '/' => some c
  | 'b' => some '\x08'
  | 'f' => some '\x0c'
  | 'n' => some '\n'
  | 'r' => some '\r'
  | 't' => some '\t'
  | _ => none

/-- Reads the characters of a text up to its closing quote.  `opened` is what remained at the
opening quote; the bound is on the number of characters. -/
def textBody (opened : Nat) : (bound : Nat) → List Char → Except ReadFailure (List Char × List Char)
  | 0, _ => .error (.fault .openText opened)
  | bound + 1, cs =>
    match cs with
    | [] => .error (.fault .openText opened)
    | '"' :: rest => .ok ([], rest)
    | ['\\'] => .error (.fault .openText opened)
    | '\\' :: 'u' :: rest => do
      let (c, rest) ← unicodeEscape rest
      let (more, rest) ← textBody opened bound rest
      return (c :: more, rest)
    | '\\' :: e :: rest =>
      match simpleEscape? e with
      | none => failAt .escape cs
      | some c => do
        let (more, rest) ← textBody opened bound rest
        return (c :: more, rest)
    | c :: rest =>
      if c.toNat < 0x20 then failAt .controlCharacter cs
      else do
        let (more, rest) ← textBody opened bound rest
        return (c :: more, rest)

/-- With no bound left a text counts as open. -/
theorem textBody_zero (opened : Nat) (cs : List Char) :
    textBody opened 0 cs = .error (.fault .openText opened) := by
  rw [textBody]

/-- Where nothing is left to read, a text is open. -/
theorem textBody_nil (opened bound : Nat) :
    textBody opened (bound + 1) [] = .error (.fault .openText opened) := by
  rw [textBody]

/-- Reads a text behind its opening quote. -/
def readText (cs : List Char) : Except ReadFailure (String × List Char) := do
  let (body, rest) ← textBody (cs.length + 1) (cs.length + 1) cs
  return (String.ofList body, rest)

/-! ## Numbers -/

/-- The value of ASCII digits. -/
def asciiNat (digits : List Char) : Nat :=
  digits.foldl (fun n c => 10 * n + (c.toNat - '0'.toNat)) 0

/-- The integer part at the front: a zero alone, or digits that begin with another one. -/
def wholeDigits : List Char → Option (List Char × List Char)
  | '0' :: rest => some (['0'], rest)
  | c :: rest =>
    if c.isDigit then some (c :: rest.takeWhile Char.isDigit, rest.dropWhile Char.isDigit)
    else none
  | [] => none

/-- The digits behind a point at the front, if there are any. -/
def fractionDigits : List Char → List Char × List Char
  | '.' :: rest =>
    if rest.head?.any Char.isDigit then
      (rest.takeWhile Char.isDigit, rest.dropWhile Char.isDigit)
    else ([], '.' :: rest)
  | cs => ([], cs)

/-- The exponent at the front, if there is one. -/
def exponentPart (cs : List Char) : Option (Int × List Char) :=
  match cs with
  | e :: rest =>
    if e = 'e' ∨ e = 'E' then
      let (negative, rest) := match rest with
        | '-' :: more => (true, more)
        | '+' :: more => (false, more)
        | _ => (false, rest)
      let digits := rest.takeWhile Char.isDigit
      if digits = [] then none
      else
        let value : Int := asciiNat digits
        some (if negative then -value else value, rest.dropWhile Char.isDigit)
    else none
  | [] => none

/-- Reads a number, `start` being what remains at its front. -/
def readNumber (start : List Char) : Except ReadFailure (Json × List Char) :=
  let (negative, cs) := match start with
    | '-' :: rest => (true, rest)
    | _ => (false, start)
  match wholeDigits cs with
  | none => failAt .value start
  | some (whole, rest) =>
    let (fraction, rest) := fractionDigits rest
    match fraction, exponentPart rest with
    | [], none =>
      if Count.maxDigits < whole.length then .error (.count (.tooLong whole.length))
      else
        let value : Int := asciiNat whole
        .ok (.int (if negative then -value else value), rest)
    | fraction, exponent? =>
      let (exponent, rest) := exponent?.getD (0, rest)
      .ok (.decimal
        { negative, mantissa := asciiNat (whole ++ fraction)
          exponent := exponent - (fraction.length : Int) }, rest)

/-- The words that stand for values. -/
def wordValues : List (String × Json) :=
  [("null", .null), ("true", .bool true), ("false", .bool false), ("NaN", .nan),
   ("Infinity", .infinite false), ("-Infinity", .infinite true)]

/-- What follows a word at the front. -/
def afterWord (word : List Char) (cs : List Char) : Option (List Char) :=
  if word.isPrefixOf cs then some (cs.drop word.length) else none

/-- Reads a value that has no parts. -/
def readSimple (cs : List Char) : Except ReadFailure (Json × List Char) :=
  match wordValues.findSome? fun (word, value) =>
      (afterWord word.toList cs).map fun rest => (value, rest) with
  | some found => .ok found
  | none => readNumber cs

/-! ## Values -/

mutual

/-- Reads a value.  The bound is on the number of reading steps. -/
def readValue : (bound : Nat) → List Char → Except ReadFailure (Json × List Char)
  | 0, cs => failAt .value cs
  | bound + 1, cs =>
    match cs with
    | '"' :: rest => do
      let (content, rest) ← readText rest
      return (Json.text content, rest)
    | '[' :: rest =>
      match skipGap rest with
      | ']' :: after => .ok (.array [], after)
      | first => do
        let (elements, rest) ← readElements bound first
        return (.array elements, rest)
    | '{' :: rest =>
      match skipGap rest with
      | '}' :: after => .ok (.object [], after)
      | first => do
        let (members, rest) ← readMembers bound [] first
        return (.object members, rest)
    | _ => readSimple cs

/-- Reads the elements of an array up to its end. -/
def readElements : (bound : Nat) → List Char → Except ReadFailure (List Json × List Char)
  | 0, cs => failAt .value cs
  | bound + 1, cs => do
    let (value, rest) ← readValue bound cs
    match skipGap rest with
    | ']' :: after => return ([value], after)
    | ',' :: after =>
      let (values, rest) ← readElements bound (skipGap after)
      return (value :: values, rest)
    | other => failAt .comma other

/-- Reads the members of an object up to its end, onto those already read. -/
def readMembers : (bound : Nat) → List (String × Json) → List Char →
    Except ReadFailure (List (String × Json) × List Char)
  | 0, _, cs => failAt .value cs
  | bound + 1, members, cs =>
    match cs with
    | '"' :: rest => do
      let (name, rest) ← readText rest
      match skipGap rest with
      | ':' :: after =>
        let (value, rest) ← readValue bound (skipGap after)
        let members := Keyed.put name value members
        match skipGap rest with
        | '}' :: after => return (members, after)
        | ',' :: after => readMembers bound members (skipGap after)
        | other => failAt .comma other
      | other => failAt .colon other
    | _ => failAt .propertyName cs

end

/-- Reads a text that is one JSON value. -/
def read (cs : List Char) : Except ReadFailure Json :=
  if cs.head? = some '\uFEFF' then failAt .byteOrderMark cs
  else do
    let (value, rest) ← readValue (2 * cs.length + 2) (skipGap cs)
    match skipGap rest with
    | [] => return value
    | extra => failAt .extraData extra

/-- A fault with its place: line and column, counted from one, and the characters in front. -/
def faultMessage (cs : List Char) (fault : Fault) (remaining : Nat) : String :=
  let front := cs.take (cs.length - remaining)
  let line := front.count '\n' + 1
  let column := (front.reverse.takeWhile (· ≠ '\n')).length + 1
  s!"{fault.message}: line {line} column {column} (char {front.length})"

end Json

end FactModel
