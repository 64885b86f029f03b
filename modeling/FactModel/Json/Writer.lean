import FactModel.Json.Basic
import FactModel.Text.Quoted

/-!
# Writing JSON

Compact JSON: no blanks, only quotes, backslashes and control characters escaped.  In messages a value
is told in another form: a text as it is, and texts inside lists and objects between quotes.
-/

namespace FactModel.Json

open FactModel.Text

/-- One character of a text in quotes. -/
def escaped (c : Char) : List Char :=
  match c with
  | '"' => ['\\', '"']
  | '\\' => ['\\', '\\']
  | '\x08' => ['\\', 'b']
  | '\x0c' => ['\\', 'f']
  | '\n' => ['\\', 'n']
  | '\r' => ['\\', 'r']
  | '\t' => ['\\', 't']
  | _ => if c.toNat < 0x20 then '\\' :: 'u' :: hex 4 c.toNat else [c]

/-- A text in quotes. -/
def textChars (s : String) : List Char :=
  '"' :: s.toList.flatMap escaped ++ ['"']

/-- A text in quotes, as a string. -/
def ofText (s : String) : String :=
  String.ofList (textChars s)

/-- The text of a decimal, as many zeros as its exponent asks for left to the exponent. -/
def decimalText (d : Decimal) : String :=
  (if d.negative then "-" else "") ++ toString d.mantissa ++ "e" ++ toString d.exponent

mutual

/-- The text of a value. -/
def render : Json → String
  | .null => "null"
  | .bool b => if b then "true" else "false"
  | .int n => toString n
  | .decimal d => decimalText d
  | .nan => "NaN"
  | .infinite negative => if negative then "-Infinity" else "Infinity"
  | .text s => ofText s
  | .array elements => "[" ++ renderElements elements ++ "]"
  | .object members => "\x7b" ++ renderMembers members ++ "\x7d"

/-- The texts of elements, parted by commas. -/
def renderElements : List Json → String
  | [] => ""
  | [j] => render j
  | j :: rest => render j ++ "," ++ renderElements rest

/-- The texts of members, parted by commas. -/
def renderMembers : List (String × Json) → String
  | [] => ""
  | [(name, j)] => ofText name ++ ":" ++ render j
  | (name, j) :: rest => ofText name ++ ":" ++ render j ++ "," ++ renderMembers rest

end

/-! ## In messages -/

mutual

/-- A value inside a list or an object. -/
def shownInside : Json → String
  | .null => "None"
  | .bool b => if b then "True" else "False"
  | .int n => toString n
  | .decimal d => Number.floatText d.toFloat
  | .nan => "nan"
  | .infinite negative => if negative then "-inf" else "inf"
  | .text s => Text.quote s
  | .array js => "[" ++ String.intercalate ", " (shownElements js) ++ "]"
  | .object ms => "\x7b" ++ String.intercalate ", " (shownMembers ms) ++ "\x7d"

/-- The elements of a list. -/
def shownElements : List Json → List String
  | [] => []
  | j :: js => shownInside j :: shownElements js

/-- The members of an object. -/
def shownMembers : List (String × Json) → List String
  | [] => []
  | (name, j) :: ms => (Text.quote name ++ ": " ++ shownInside j) :: shownMembers ms

end

/-- A value in a message. -/
def shown : Json → String
  | .text s => s
  | j => j.shownInside

end FactModel.Json
