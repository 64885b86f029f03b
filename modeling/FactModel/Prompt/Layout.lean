import FactModel.Number.Count
import FactModel.Prompt.Value

/-!
# Layouts

The layout of a field says how its value is written: how wide, on which side, what fills the rest, and,
for numbers, with which sign, in which base or style, with how many digits and how these are grouped.
A text is filled up to its width, and a text that is too long is cut where its layout says so.
-/

namespace FactModel.Prompt

open FactModel.Text

/-- Where a text stands in its width. -/
inductive Side where
  | left
  | right
  | middle
  /-- At both ends: what stands in front to the left, the rest to the right. -/
  | apart
  deriving DecidableEq, Repr

/-- How a value is laid out, as far as its layout says. -/
structure Layout where
  fill : Option Char
  side : Option Side
  sign : Option Char
  /-- A zero has no minus sign. -/
  plainZero : Bool
  /-- Bases are marked, and numbers written in full. -/
  alternate : Bool
  /-- Zeros fill the rest. -/
  zeros : Bool
  width : Option Nat
  grouping : Option Char
  /-- The most characters of a text, or the digits of a number. -/
  limit : Option Nat
  letter : Option Char
  deriving DecidableEq, Repr

/-- Why a layout does not apply to a value. -/
inductive LayoutError where
  | sign
  | blankSign
  | plainZero
  | alternate
  | apart
  /-- Digits of a presentation that has none are grouped. -/
  | grouping (mark letter : Char)
  | bothGroupings
  | noLimit
  | code (letter : Char) (kind : Kind)
  | unreadable (layout : List Char) (kind : Kind)
  | hugeNumber
  /-- There is no room for a text that wide. -/
  | noRoom
  /-- Values of that kind have no layouts. -/
  | unsupported (kind : Kind)
  | integerLimit
  | integerPlainZero
  | characterSign
  | characterAlternate
  /-- No character has that number. -/
  | noCharacter
  /-- No character has that number, and no machine word holds it. -/
  | hugeCharacter
  /-- An integer is too large for a floating-point number. -/
  | hugeInteger
  /-- More digits are wanted than can be. -/
  | hugeLimit
  deriving DecidableEq, Repr

/-- A letter in messages: as it is, or by its number. -/
def shownLetter (letter : Char) : String :=
  if 32 < letter.toNat ∧ letter.toNat < 128 then String.singleton letter
  else "\\x" ++ String.ofList (hex 1 letter.toNat)

/-- The largest number that may stand in a template. -/
def maxNumber : Nat := 0x7FFFFFFFFFFFFFFF

/-- Whether digits denote a number that is too large to stand in a template. -/
def isHuge (digits : List Char) : Bool :=
  maxNumber < Count.decimal digits

/-- The report of a number that is too large. -/
def hugeNumber : String :=
  "Too many decimal digits in format string"

/-- The wording of a layout error. -/
def LayoutError.message : LayoutError → String
  | .sign => "Sign not allowed in string format specifier"
  | .blankSign => "Space not allowed in string format specifier"
  | .plainZero => "Negative zero coercion (z) not allowed in string format specifier"
  | .alternate => "Alternate form (#) not allowed in string format specifier"
  | .apart => "'=' alignment not allowed in string format specifier"
  | .grouping mark letter => s!"Cannot specify '{mark}' with '{shownLetter letter}'."
  | .bothGroupings => "Cannot specify both ',' and '_'."
  | .noLimit => "Format specifier missing precision"
  | .code letter kind =>
    s!"Unknown format code '{shownLetter letter}' for object of type '{kind.name}'"
  | .unreadable layout kind =>
    s!"Invalid format specifier '{String.ofList layout}' for object of type '{kind.name}'"
  | .hugeNumber => Prompt.hugeNumber
  | .noRoom => ""
  | .unsupported kind => s!"unsupported format string passed to {kind.name}.__format__"
  | .integerLimit => "Precision not allowed in integer format specifier"
  | .integerPlainZero => "Negative zero coercion (z) not allowed in integer format specifier"
  | .characterSign => "Sign not allowed with integer format specifier 'c'"
  | .characterAlternate => "Alternate form (#) not allowed with integer format specifier 'c'"
  | .noCharacter => "%c arg not in range(0x110000)"
  | .hugeCharacter => "Python int too large to convert to C long"
  | .hugeInteger => "int too large to convert to float"
  | .hugeLimit => "precision too big"

namespace Layout

/-- The side that a mark stands for. -/
def sideOf? (mark : Char) : Option Side :=
  match mark with
  | '<' => some .left
  | '>' => some .right
  | '^' => some .middle
  | '=' => some .apart
  | _ => none

/-- The fill and the mark for the place at the front of a layout, and what remains. -/
def readPlace (layout : List Char) : Option Char × Option Side × List Char :=
  match layout with
  | fill :: mark :: rest =>
    match sideOf? mark, sideOf? fill with
    | some side, _ => (some fill, some side, rest)
    | none, some side => (none, some side, mark :: rest)
    | none, none => (none, none, layout)
  | [mark] => (none, sideOf? mark, if (sideOf? mark).isSome then [] else [mark])
  | [] => (none, none, [])

/-- What remains behind one of some optional marks, and the mark. -/
def readMark (marks : List Char) : List Char → Option Char × List Char
  | [] => (none, [])
  | c :: cs => if marks.contains c then (some c, cs) else (none, c :: cs)

/-- The mark that groups digits, in front of the limit. -/
def readGrouping : List Char → Except LayoutError (Option Char × List Char)
  | ',' :: '_' :: _ => .error .bothGroupings
  | '_' :: ',' :: _ => .error .bothGroupings
  | cs => .ok (readMark [',', '_'] cs)

/-- The limit behind a point. -/
def readLimit : List Char → Except LayoutError (Option Nat × List Char)
  | '.' :: cs =>
    let digits := cs.takeWhile isDecimal
    if digits = [] then .error .noLimit
    else if isHuge digits then .error .hugeNumber
    else .ok (some (Count.decimal digits), cs.dropWhile isDecimal)
  | cs => .ok (none, cs)

/-- The letters of the bases that are powers of two. -/
def binaryLetters : List Char :=
  ['b', 'o', 'x', 'X']

/-- Whether the digits of a presentation may be grouped by a mark. -/
def groupable (mark letter : Char) : Bool :=
  "defgEG%F".toList.contains letter || (mark = '_' && binaryLetters.contains letter)

/-- There is room for texts of at most so many characters. -/
def roomLimit : Nat := 100000000000

/-- Reads the layout of a value of a kind whose usual presentation has a letter. -/
def read (kind : Kind) (usual : Option Char) (layout : List Char) : Except LayoutError Layout := do
  let (fill, side, rest) := readPlace layout
  let (sign, rest) := readMark ['+', '-', ' '] rest
  let (plainZero, rest) := readMark ['z'] rest
  let (alternate, rest) := readMark ['#'] rest
  let (zeros, rest) := if fill.isSome then (none, rest) else readMark ['0'] rest
  let digits := rest.takeWhile isDecimal
  if isHuge digits then throw .hugeNumber
  let (grouping, rest) ← readGrouping (rest.dropWhile isDecimal)
  let (limit, rest) ← readLimit rest
  if 1 < rest.length then throw (.unreadable layout kind)
  let letter := rest.head?.or usual
  if let (some mark, some letter) := (grouping, letter) then
    unless groupable mark letter do throw (.grouping mark letter)
  return {
    fill, side, sign, plainZero := plainZero.isSome, alternate := alternate.isSome
    zeros := zeros.isSome, width := if digits = [] then none else some (Count.decimal digits)
    grouping, limit, letter }

/-- The character that fills the rest of the width. -/
def filler (l : Layout) : Char :=
  (l.fill.or (if l.zeros then some '0' else none)).getD ' '

end Layout

/-! ## Texts -/

/-- How a text is filled up. -/
structure Padding where
  fill : Char
  side : Side
  width : Nat
  deriving DecidableEq, Repr

namespace Padding

/-- So many characters that fill up. -/
def filling (p : Padding) (count : Nat) : List Char :=
  List.replicate count p.fill

/-- Fills up a text with something in front of it. -/
def apply (p : Padding) (front body : List Char) : List Char :=
  let missing := p.width - (front.length + body.length)
  match p.side with
  | .left => front ++ body ++ p.filling missing
  | .right => p.filling missing ++ front ++ body
  | .middle => p.filling (missing / 2) ++ front ++ body ++ p.filling (missing - missing / 2)
  | .apart => front ++ p.filling missing ++ body

/-- A text that is filled up is as wide as it is to be. -/
theorem width_le_length_apply (p : Padding) (front body : List Char) :
    p.width ≤ (p.apply front body).length := by
  unfold apply
  cases p.side <;> simp [filling] <;> omega

end Padding

/-- Makes sure that nothing in a layout is for other values than texts. -/
def Layout.checkText (l : Layout) : Except LayoutError Unit := do
  if let some letter := l.letter then
    if letter ≠ 's' then throw (.code letter .text)
  if l.sign = some ' ' then throw .blankSign
  if l.sign.isSome then throw .sign
  if l.plainZero then throw .plainZero
  if l.alternate then throw .alternate
  if l.side = some .apart then throw .apart
  if Layout.roomLimit < l.width.getD 0 then throw .noRoom

/-- Lays out a text. -/
def layOutText (layout text : List Char) : Except LayoutError (List Char) := do
  let l ← Layout.read .text (some 's') layout
  l.checkText
  let padding : Padding := { fill := l.filler, side := l.side.getD .left, width := l.width.getD 0 }
  return padding.apply [] (l.limit.elim text (text.take ·))

end FactModel.Prompt
