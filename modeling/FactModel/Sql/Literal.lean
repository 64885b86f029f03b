import FactModel.SemanticType
import FactModel.Text.Blank
import FactModel.Text.Word

/-!
# Literals

How a value from a question is written in a query: as a bare number where numbers are held, and as
a text between single quotes otherwise.
-/

namespace FactModel

open FactModel.Text

/-- A literal of a query. -/
inductive Literal where
  /-- A number, written without quotes. -/
  | number (digits : List Char)
  | text (value : List Char)
  deriving DecidableEq, Repr

namespace Literal

/-- Digits, at least one. -/
def isDigits (cs : List Char) : Bool :=
  !cs.isEmpty && cs.all isDecimal

/-- Digits, perhaps with a point and more digits behind them. -/
def isUnsigned (cs : List Char) : Bool :=
  match cs.dropWhile isDecimal with
  | [] => isDigits cs
  | '.' :: fraction => isDigits (cs.takeWhile isDecimal) && isDigits fraction
  | _ => false

/-- Whether a text is written like a number: a minus sign at most, digits, and a fraction. -/
def isNumeric : List Char → Bool
  | '-' :: cs => isUnsigned cs
  | cs => isUnsigned cs

/-- The literal for a value in a column of a given type. -/
def ofValue (type : SemanticType) (value : String) : Literal :=
  let bare := trim value.toList
  if type = .number ∧ isNumeric bare then .number bare else .text value.toList

/-- A text with every single quote written twice. -/
def escape : List Char → List Char
  | [] => []
  | '\'' :: cs => '\'' :: '\'' :: escape cs
  | c :: cs => c :: escape cs

/-- The text of a literal. -/
def render : Literal → String
  | .number digits => String.ofList digits
  | .text value => String.ofList ('\'' :: escape value ++ ['\''])

/-- A quote is written twice and every other character once. -/
theorem count_escape (c : Char) (cs : List Char) :
    (escape cs).count c = (if c = '\'' then 2 else 1) * cs.count c := by
  induction cs with
  | nil => rfl
  | cons d cs ih =>
    by_cases isQuote : d = '\'' <;> by_cases same : c = d <;> grind [escape]

end Literal

end FactModel
