/-!
# Printed texts

What is printed goes to no terminal: control sequences that would colour a terminal or clear it are
left out, and lines end in a line feed alone.
-/

namespace FactModel.Text

/-- The character that begins a control sequence. -/
def controlMark : Char := '\x1b'

/-- Whether a character stands between the bracket and the letter of a control sequence. -/
def isSequenceChar (c : Char) : Bool :=
  c.isDigit || c == ';' || c == '?'

/-- The number of characters that a control sequence at the front has behind its first one: a bracket,
parameters and a letter. -/
def sequenceTail? : List Char → Option Nat
  | escape :: '[' :: cs =>
    let parameters := (cs.takeWhile isSequenceChar).length
    if escape = controlMark ∧ (cs.drop parameters).head?.any Char.isAlpha then
      some (parameters + 2)
    else none
  | _ => none

/-- A text without its control sequences, from behind the first `skip` characters. -/
def dropSequences : (skip : Nat) → List Char → List Char
  | _, [] => []
  | skip + 1, _ :: cs => dropSequences skip cs
  | 0, c :: cs =>
    match sequenceTail? (c :: cs) with
    | some tail => dropSequences tail cs
    | none => c :: dropSequences 0 cs

/-- A text with line feeds in place of a carriage return and a line feed. -/
def unifyLineEnds : List Char → List Char
  | '\r' :: '\n' :: cs => '\n' :: unifyLineEnds cs
  | c :: cs => c :: unifyLineEnds cs
  | [] => []

/-- A text as it is printed. -/
def printed (text : String) : String :=
  String.ofList (unifyLineEnds (dropSequences 0 text.toList))

/-- A text without the character that begins them has no control sequences. -/
theorem dropSequences_of_not_mem {cs : List Char} (plain : controlMark ∉ cs) :
    dropSequences 0 cs = cs := by
  induction cs with
  | nil => rfl
  | cons c cs ih =>
    have differ : c ≠ controlMark := fun same => plain (by simp [same])
    have rest : controlMark ∉ cs := fun found => plain (List.mem_cons_of_mem _ found)
    have noTail : sequenceTail? (c :: cs) = none := by
      unfold sequenceTail?
      split
      · next spelled =>
        simp only [List.cons.injEq] at spelled
        simp [← spelled.1, differ]
      · rfl
    simp [dropSequences, noTail, ih rest]

end FactModel.Text
