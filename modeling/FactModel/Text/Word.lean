import FactModel.Text.Table
import FactModel.Text.WordRanges

/-!
# Word characters, digits and word boundaries
-/

namespace FactModel.Text

/-- Whether a character belongs to a word: a letter, a digit, a numeral or the underscore. -/
def isWord (c : Char) : Bool :=
  inRanges c.toNat wordRanges

/-- The value of a decimal digit of any script. -/
def decimalValue? (c : Char) : Option Nat :=
  (decimalZeros.find? fun origin => origin ≤ c.toNat && c.toNat ≤ origin + 9).map (c.toNat - ·)

/-- Whether a character is a decimal digit of any script. -/
def isDecimal (c : Char) : Bool :=
  (decimalValue? c).isSome

/-- Whether a character is a digit in the wide sense, superscripts and the like included. -/
def isDigit (c : Char) : Bool :=
  isDecimal c || inRanges c.toNat looseDigitRanges

/-- Whether a word begins or ends between two neighbouring positions. -/
def boundary (before after : Option Char) : Bool :=
  before.any isWord != after.any isWord

/-- The value of a decimal digit is below ten. -/
theorem decimalValue?_lt {c : Char} {d : Nat} (h : decimalValue? c = some d) : d < 10 := by
  simp only [decimalValue?, Option.map_eq_some_iff] at h
  obtain ⟨origin, found, rfl⟩ := h
  have := List.find?_some found
  simp only [Bool.and_eq_true, decide_eq_true_eq] at this
  omega

end FactModel.Text
