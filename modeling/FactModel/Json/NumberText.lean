import FactModel.Json.Checked
import FactModel.Text.Blank

/-!
# Numbers given as texts

The numbers that texts denote where a record wants a number.  A text is read as it stands, and if
that fails once more without the blanks, zeros and underscores that users put into numbers.
-/

namespace FactModel.Json

open FactModel.Text

/-- The sign at the front of a text, whether it is negative, and what remains. -/
def readSign : List Char → Bool × List Char
  | '-' :: cs => (true, cs)
  | '+' :: cs => (false, cs)
  | cs => (false, cs)

/-- An integer with a sign and digits. -/
def signed (negative : Bool) (digits : List Char) : Int :=
  let n : Int := Count.decimal digits
  if negative then -n else n

/-! ## Integers -/

/-- The most characters of an integer, its sign included. -/
def maxIntegerLength : Nat := 4300

/-- A digit that an integer of several digits may begin with. -/
def isLeadingDigit (c : Char) : Bool :=
  c.isDigit && c != '0'

/-- The integer that a text denotes as it stands: zero, or digits that begin with another one, perhaps
behind a minus sign. -/
def readPlainInteger (cs : List Char) : Except Defect Int :=
  let negative := cs.head? = some '-'
  let digits := if negative then cs.drop 1 else cs
  let run := digits.takeWhile Char.isDigit
  if digits = ['0'] then .ok 0
  else if !digits.head?.any isLeadingDigit then .error .integerText
  else if maxIntegerLength < run.length + (cs.length - digits.length) then .error .integerSize
  else if run ≠ digits then .error .integerText
  else .ok (signed negative digits)

/-- A text without zeros and underscores behind a zero at its front.  A point keeps the character in
front of it, and so does the end of the text. -/
def dropZeros (last : Char) : List Char → Option (List Char)
  | [] => some [last]
  | c :: cs =>
    if c = '0' ∨ c = '_' then dropZeros c cs
    else if c = '-' ∨ isLeadingDigit c then some (c :: cs)
    else if c = '.' then some (last :: c :: cs)
    else none

/-- A text that begins with a digit, without the zeros at its front. -/
def dropFrontZeros : List Char → Option (List Char)
  | [] => none
  | c :: cs =>
    if c = '0' then dropZeros c cs else if isLeadingDigit c then some (c :: cs) else none

/-- A text of an integer without what stands in front of its first digit that counts, a minus sign
apart. -/
def dropFront : List Char → Option (List Char)
  | '-' :: cs => (dropFrontZeros cs).map ('-' :: ·)
  | '+' :: cs => dropFrontZeros cs
  | cs => dropFrontZeros cs

/-- A text without a point and the zeros behind it. -/
def dropFraction (cs : List Char) : Option (List Char) :=
  match cs.dropWhile (· ≠ '.') with
  | [] => some cs
  | [_] => none
  | _ :: zeros => if zeros.all (· = '0') then some (cs.takeWhile (· ≠ '.')) else none

/-- A text without its underscores, if they stand one by one between other characters. -/
def dropUnderscores? (cs : List Char) : Option (List Char) :=
  if cs.contains '_' ∧ cs.head? ≠ some '_' ∧ cs.getLast? ≠ some '_' ∧ !doubled cs then
    some (cs.filter (· ≠ '_'))
  else none
where
  /-- Whether two underscores stand side by side. -/
  doubled : List Char → Bool
    | '_' :: '_' :: _ => true
    | _ :: cs => doubled cs
    | [] => false

/-- A text of an integer in its plain form. -/
def plainInteger? (cs : List Char) : Option (List Char) := do
  let cs ← dropFront (trimBoth isSpace cs)
  let cs ← dropFraction cs
  return (dropUnderscores? cs).getD cs

/-- The integer that a text denotes. -/
def readInteger (cs : List Char) : Except Defect Int :=
  match readPlainInteger cs with
  | .error .integerText => (plainInteger? cs).elim (.error .integerText) readPlainInteger
  | read => read

/-! ## Numbers with fractions -/

/-- The exponent of a number behind its digits. -/
def readExponent? : List Char → Option Int
  | [] => some 0
  | c :: cs =>
    let (negative, digits) := readSign cs
    if (c = 'e' ∨ c = 'E') ∧ digits ≠ [] ∧ digits.all Char.isDigit then
      some (signed negative digits)
    else none

/-- The number that a text denotes as it stands: digits with a sign, a point and an exponent, or the
name of an infinity or of no number. -/
def readPlainNumber? (cs : List Char) : Option Float :=
  let (negative, cs) := readSign cs
  let word := String.ofList (cs.map Char.toLower)
  if word = "nan" then some (0.0 / 0.0)
  else if word = "inf" ∨ word = "infinity" then some (if negative then -1.0 / 0.0 else 1.0 / 0.0)
  else
    let whole := cs.takeWhile Char.isDigit
    let behind := cs.dropWhile Char.isDigit
    let fraction := if behind.head? = some '.' then (behind.drop 1).takeWhile Char.isDigit else []
    let behind :=
      if behind.head? = some '.' then (behind.drop 1).dropWhile Char.isDigit else behind
    if whole ++ fraction = [] then none
    else
      (readExponent? behind).map fun exponent =>
        { negative, mantissa := Count.decimal (whole ++ fraction)
          exponent := exponent - fraction.length : Decimal }.toFloat

/-- The number that a text denotes, blanks around it or underscores within it left out. -/
def readNumber? (cs : List Char) : Option Float :=
  (readPlainNumber? (trimBoth isSpace cs)).or ((dropUnderscores? cs).bind readPlainNumber?)

end FactModel.Json
