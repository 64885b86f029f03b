import FactModel.Text.Blank
import FactModel.Text.Case
import FactModel.Text.Quoted
import FactModel.Text.Word

/-!
# Counts in running text

A count is written in digits of any script or as a number word up to twelve.  A token of digits
need not denote a number: superscripts are digits without being decimal, and a run of more than
4300 decimal digits is refused.
-/

namespace FactModel

/-- Why a token of digits denotes no count. -/
inductive CountError where
  /-- Some digit of the token is not decimal. -/
  | notDecimal (written : String)
  /-- The token begins with too many decimal digits. -/
  | tooLong (digits : Nat)
  deriving DecidableEq, Repr

namespace Count

open FactModel.Text

/-- The most decimal digits a count may have. -/
def maxDigits : Nat := 4300

/-- The most characters of a refused token that a message shows, quotes included. -/
def shownLimit : Nat := 200

/-- The number words and their values. -/
def numberWords : List (String × Nat) :=
  [("zero", 0), ("one", 1), ("two", 2), ("three", 3), ("four", 4), ("five", 5), ("six", 6),
   ("seven", 7), ("eight", 8), ("nine", 9), ("ten", 10), ("eleven", 11), ("twelve", 12)]

/-- The value of a run of decimal digits. -/
def decimal (digits : List Char) : Nat :=
  digits.foldl (fun n c => 10 * n + (decimalValue? c).getD 0) 0

/-- The number denoted by a token of digits.  The decimal digits at its front are counted first,
so an overlong run is reported even when a digit of another kind follows it. -/
def ofDigits (token : List Char) : Except CountError Nat :=
  let run := token.takeWhile isDecimal
  if maxDigits < run.length then .error (.tooLong run.length)
  else if run.length < token.length then .error (.notDecimal (String.ofList token))
  else .ok (decimal run)

/-- Reads a count: digits, a number word in any case, or nothing. -/
def read (token : List Char) : Except CountError (Option Nat) :=
  let word := lower (trim token)
  if word ≠ [] ∧ word.all isDigit then (ofDigits word).map some
  else .ok ((numberWords.find? (·.1 == String.ofList word)).map (·.2))

/-- A token of decimal digits within the limit denotes its value. -/
theorem ofDigits_eq_ok {token : List Char} (decimals : ∀ c ∈ token, isDecimal c = true)
    (short : token.length ≤ maxDigits) : ofDigits token = .ok (decimal token) := by
  have whole : token.takeWhile isDecimal = token := by
    rw [← List.append_nil token, List.takeWhile_append_of_pos decimals]
    rfl
  simp [ofDigits, whole, Nat.not_lt.2 short]

end Count

/-- The wording of a count error. -/
def CountError.message : CountError → String
  | .notDecimal written =>
    let shown := String.ofList ((Text.quoted written.toList).take Count.shownLimit)
    s!"invalid literal for int() with base 10: {shown}"
  | .tooLong digits =>
    s!"Exceeds the limit ({Count.maxDigits} digits) for integer string conversion: " ++
      s!"value has {digits} digits; use sys.set_int_max_str_digits() to increase the limit"

end FactModel
