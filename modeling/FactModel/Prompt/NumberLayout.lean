import FactModel.Number.Styled
import FactModel.Prompt.Layout

/-!
# Laying out numbers

Numbers stand to the right in their width.  Zeros fill them up behind their sign, and are grouped with
their digits.
-/

namespace FactModel.Prompt

open FactModel.Number

/-- A number written out, in the parts that a layout treats apart. -/
structure Written where
  negative : Bool
  /-- The mark of a base. -/
  mark : List Char
  /-- The digits in front of the point. -/
  whole : List Char
  /-- What follows them. -/
  rest : List Char
  deriving DecidableEq, Repr

namespace Written

/-- A text of a number with its digits at the front taken apart. -/
def ofText (negative : Bool) (text : List Char) : Written :=
  { negative, mark := [], whole := text.takeWhile Char.isDigit, rest := text.dropWhile Char.isDigit }

/-- The sign that a layout wants. -/
def sign (w : Written) (l : Layout) : List Char :=
  if w.negative then ['-']
  else
    match l.sign with
    | some '+' => ['+']
    | some ' ' => [' ']
    | _ => []

/-- How many digits stand between two marks. -/
def groupSize (l : Layout) : Nat :=
  if l.letter.any Layout.binaryLetters.contains then 4 else 3

/-- Lays out a number. -/
def layOut (w : Written) (l : Layout) : Except LayoutError (List Char) := do
  if Layout.roomLimit < l.width.getD 0 then throw .noRoom
  let front := w.sign l ++ w.mark
  let side := l.side.getD (if l.zeros then .apart else .right)
  let width := l.width.getD 0
  let least :=
    if l.filler = '0' ∧ side = .apart then width - (front.length + w.rest.length) else 0
  let whole :=
    if w.whole = [] then []
    else
      match l.grouping with
      | some mark => grouped (groupSize l) mark least w.whole
      | none => padZeros least w.whole
  let padding : Padding := { fill := l.filler, side, width }
  return padding.apply front (whole ++ w.rest)

end Written

/-- The base that a letter stands for, and its mark. -/
def baseOf (letter : Option Char) : Nat × List Char :=
  match letter with
  | some 'b' => (2, ['0', 'b'])
  | some 'o' => (8, ['0', 'o'])
  | some 'x' => (16, ['0', 'x'])
  | some 'X' => (16, ['0', 'X'])
  | _ => (10, [])

/-- The letters for integers that are no characters. -/
def integerLetters : List Char :=
  ['d', 'n'] ++ Layout.binaryLetters

/-- The letters for floating-point numbers. -/
def numberLetters : List Char :=
  ['e', 'E', 'f', 'F', 'g', 'G', 'n', '%']

/-- A machine word holds the integers from its negative on and below it. -/
def wordBound : Nat := 0x8000000000000000

/-- The character of a number. -/
def characterOf (n : Int) : Except LayoutError Char :=
  if n < -(wordBound : Int) ∨ (wordBound : Int) ≤ n then .error .hugeCharacter
  else if n < 0 ∨ 0x10FFFF < n then .error .noCharacter
  else .ok (Char.ofNat n.toNat)

/-- Lays out an integer in digits. -/
def Layout.integer (l : Layout) (n : Int) : Except LayoutError (List Char) := do
  if l.limit.isSome then throw .integerLimit
  if l.plainZero then throw .integerPlainZero
  if l.letter = some 'c' then
    if l.sign.isSome then throw .characterSign
    if l.alternate then throw .characterAlternate
    let c ← characterOf n
    Written.layOut { negative := false, mark := [], whole := [], rest := [c] } l
  else
    let (base, mark) := baseOf l.letter
    let digits := Nat.toDigits base n.natAbs
    let digits := if l.letter = some 'X' then digits.map Char.toUpper else digits
    let mark := if l.alternate then mark else []
    Written.layOut { negative := n < 0, mark, whole := digits, rest := [] } l

/-- How many digits of a number are written unless its layout says so. -/
def usualLimit : Nat := 6

/-- The most digits of a number that can be wanted. -/
def maxLimit : Nat := 0x7FFFFFFF

/-- The text of a finite number without its sign, as a layout wants it. -/
def Layout.digits (l : Layout) (x : Binary) : List Char :=
  let count := l.limit.getD usualLimit
  let style : Style := { full := l.alternate, pointed := l.letter.isNone }
  match l.letter with
  | some 'e' | some 'E' => style.scientific count (x.rounded (count + 1))
  | some 'f' | some 'F' | some '%' =>
    fixedDigits count (x.numerator (4 * x.m)) x.denominator ++
      if count = 0 ∧ l.alternate then ['.'] else []
  | some _ => style.general (max count 1) (max count 1) (x.rounded (max count 1))
  | none =>
    match l.limit with
    | none => style.general 0 greatestPoint x.shortestPlaced
    | some count =>
      let count := max count 1
      style.general count (count - 1) (x.rounded count)

/-- Whether a text of a number has a digit in front of its exponent that is not zero. -/
def hasDigit (text : List Char) : Bool :=
  (text.takeWhile (· ≠ 'e')).any fun c => c.isDigit && c != '0'

/-- Lays out a floating-point number. -/
def Layout.number (l : Layout) (x : Float) : Except LayoutError (List Char) := do
  if l.limit.any (maxLimit < ·) then throw .hugeLimit
  let percent := l.letter = some '%'
  let x := if percent then x * 100.0 else x
  let (negative, text) := match Parts.ofBits x.toBits.toNat with
    | .nan => (false, "nan".toList)
    | .infinite negative => (negative, "inf".toList)
    | .finite negative b =>
      let text := l.digits b
      (negative && (!l.plainZero || hasDigit text), text)
  let text := if l.letter.any Char.isUpper then text.map Char.toUpper else text
  Written.layOut (.ofText negative (text ++ if percent then ['%'] else [])) l

/-- Lays out an integer. -/
def layOutInteger (kind : Kind) (layout : List Char) (n : Int) :
    Except LayoutError (List Char) := do
  let l ← Layout.read kind (some 'd') layout
  let letter := l.letter.getD 'd'
  if letter = 'c' ∨ integerLetters.contains letter then l.integer n
  else if numberLetters.contains letter then
    if !(Float.ofInt n).isFinite then throw .hugeInteger
    l.number (Float.ofInt n)
  else throw (.code letter kind)

/-- Lays out a floating-point number. -/
def layOutNumber (layout : List Char) (x : Float) : Except LayoutError (List Char) := do
  let l ← Layout.read .number none layout
  if let some letter := l.letter then
    unless numberLetters.contains letter do throw (.code letter .number)
  l.number x

/-- Lays out a value. -/
def Value.layOut (v : Value) (layout : List Char) : Except LayoutError (List Char) :=
  if layout = [] then .ok v.shown.toList
  else
    match v with
    | .given (.text s) => layOutText layout s.toList
    | .given (.int n) => layOutInteger .integer layout n
    | .given (.bool b) => layOutInteger .truth layout (if b then 1 else 0)
    | .given j =>
      if v.kindOf = .number then layOutNumber layout (j.asFloat?.getD 0.0)
      else .error (.unsupported v.kindOf)
    | _ => .error (.unsupported v.kindOf)

end FactModel.Prompt
