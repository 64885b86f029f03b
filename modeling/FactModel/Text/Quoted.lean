import FactModel.Text.Table
import FactModel.Text.UnprintableRanges

/-!
# Quoted text

The form in which messages and log lines show a text as a value: between single quotes, or between
double quotes when the text holds single quotes only, with everything unprintable escaped.
-/

namespace FactModel.Text

/-- The lower-case hexadecimal digits of a number, padded with zeros to a width. -/
def hex (width n : Nat) : List Char :=
  let digits := Nat.toDigits 16 n
  List.replicate (width - digits.length) '0' ++ digits

/-- Whether a character stands for itself between quotes. -/
def isPrintable (c : Char) : Bool :=
  !inRanges c.toNat unprintableRanges

/-- One character between the quotes `quote`. -/
def escapeChar (quote c : Char) : List Char :=
  if c = quote ∨ c = '\\' then ['\\', c]
  else if c = '\n' then ['\\', 'n']
  else if c = '\r' then ['\\', 'r']
  else if c = '\t' then ['\\', 't']
  else if isPrintable c then [c]
  else if c.toNat < 0x100 then '\\' :: 'x' :: hex 2 c.toNat
  else if c.toNat < 0x10000 then '\\' :: 'u' :: hex 4 c.toNat
  else '\\' :: 'U' :: hex 8 c.toNat

/-- A text between quotes. -/
def quoted (cs : List Char) : List Char :=
  let quote := if '\'' ∈ cs ∧ '"' ∉ cs then '"' else '\''
  quote :: cs.flatMap (escapeChar quote) ++ [quote]

/-- A text between quotes, as a string. -/
def quote (s : String) : String :=
  String.ofList (quoted s.toList)

end FactModel.Text
