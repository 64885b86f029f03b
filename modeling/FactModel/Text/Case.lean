import FactModel.Text.Table
import FactModel.Text.CaseRanges

/-!
# Letter case

Three comparisons ignore case.  Names are compared by their full case folding (`fold`), question
and bullet phrases letter by letter up to simple case pairs (`sameLetter`), and fixed vocabularies
after lower-casing (`lower`).
-/

namespace FactModel.Text

/-- The lower-case counterpart of a character, one character for one. -/
def lowerChar (c : Char) : Char :=
  match mapRows c.toNat lowerRows with
  | some n => Char.ofNat n
  | none => c

/-- The sequence that a code point folds to under the ascending rows, if one of them is for it. -/
def foldSequence (n : Nat) : List (Nat × List Nat) → Option (List Nat)
  | [] => none
  | (code, folded) :: rest =>
    if n < code then none else if n = code then some folded else foldSequence n rest

/-- The case folding of one character, which may be several characters. -/
def foldChar (c : Char) : List Char :=
  match foldSequence c.toNat foldSequences with
  | some folded => folded.map Char.ofNat
  | none =>
    match mapRows c.toNat foldRows with
    | some n => [Char.ofNat n]
    | none => [lowerChar c]

/-- The case folding of a text: texts with equal foldings differ in case only. -/
def fold (cs : List Char) : List Char :=
  cs.flatMap foldChar

/-- Groups of lower-case letters that count as one letter: the dotless and the dotted i, the long
and the round s, and the variant shapes of Greek and Cyrillic letters and of two ligatures.  The
first member stands for its group. -/
def letterVariants : List (List Nat) := [
  [0x69, 0x131], [0x73, 0x17F], [0xB5, 0x3BC], [0x345, 0x3B9, 0x1FBE], [0x390, 0x1FD3],
  [0x3B0, 0x1FE3], [0x3B2, 0x3D0], [0x3B5, 0x3F5], [0x3B8, 0x3D1], [0x3BA, 0x3F0], [0x3C0, 0x3D6],
  [0x3C1, 0x3F1], [0x3C2, 0x3C3], [0x3C6, 0x3D5], [0x432, 0x1C80], [0x434, 0x1C81], [0x43E, 0x1C82],
  [0x441, 0x1C83], [0x442, 0x1C84, 0x1C85], [0x44A, 0x1C86], [0x463, 0x1C87], [0x1C88, 0xA64B],
  [0x1E61, 0x1E9B], [0xFB05, 0xFB06]]

/-- The code point that stands for a letter in any of its cases and shapes. -/
def letterKey (c : Char) : Nat :=
  let n := (lowerChar c).toNat
  match letterVariants.find? (·.contains n) with
  | some group => group.headD n
  | none => n

/-- Whether two characters are the same letter up to case and shape. -/
def sameLetter (c d : Char) : Bool :=
  letterKey c == letterKey d

@[simp]
theorem sameLetter_self (c : Char) : sameLetter c c = true := by
  simp [sameLetter]

theorem sameLetter_comm (c d : Char) : sameLetter c d = sameLetter d c := by
  exact Bool.beq_comm

/-- Whether the nearest character that case rules do not look past is cased. -/
def casedNext (cs : List Char) : Bool :=
  match cs.dropWhile (fun c => inRanges c.toNat caseIgnorableRanges) with
  | [] => false
  | c :: _ => inRanges c.toNat casedRanges

/-- Lower-cases a text.  A capital sigma that ends a word becomes a final sigma, and a dotted
capital I keeps its dot as a combining mark.  The characters already passed come in reverse. -/
def lowerFrom (passed : List Char) : List Char → List Char
  | [] => []
  | c :: cs =>
    let here :=
      if c = 'Σ' then [if casedNext passed && !casedNext cs then 'ς' else 'σ']
      else if c = 'İ' then ['i', '\u0307']
      else [lowerChar c]
    here ++ lowerFrom (c :: passed) cs

/-- The lower-case form of a text. -/
def lower (cs : List Char) : List Char :=
  lowerFrom [] cs

end FactModel.Text
