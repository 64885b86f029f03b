import FactModel.Name
import FactModel.Text.Phrase

/-!
# Attribute phrases

The phrase that introduces an attribute, as in `Zipcode (Text), for example "90210"`: a name, then
optionally a type in parentheses and an example.  The type may also follow the example.
-/

namespace FactModel.Bullet

open FactModel.Text

/-- An attribute phrase taken apart. -/
structure Object where
  name : String
  declaredType : Option String
  sample : Option String
  deriving DecidableEq, Repr

namespace Object

/-- The phrases that introduce an example. -/
def samplePhrases : List String :=
  ["for example", "for instance", "e.g.", "e.g", "such as"]

/-- The example when its introduction starts right here: a comma perhaps, blanks, the phrase, a
colon or comma perhaps, and blanks. -/
def sampleHere (cs : List Char) : Option (List Char) :=
  (stripOptional [","] cs).flatMap stripBlanks
    |>.flatMap (stripAny samplePhrases)
    |>.flatMap (stripOptional [":", ","])
    |>.flatMap stripBlanks
    |>.findSome? toLineEnd

/-- The text between the parentheses when a type at the end of the text starts right here, blanks
in front of it included. -/
def typeHere (cs : List Char) : Option (List Char) :=
  match cs.dropWhile isBlank with
  | '(' :: inner =>
    let isInner := fun c => c ≠ '(' ∧ c ≠ ')'
    let written := inner.takeWhile isInner
    let rest := inner.dropWhile isInner
    if written ≠ [] ∧ (rest = [')'] ∨ rest = [')', '\n']) then some written else none
  | _ => none

/-- The characters that may enclose an example: single, double and back quotes. -/
def quoteMarks : List Char := ['\'', '"', Char.ofNat 0x60]

/-- A text without surrounding blanks and without the quotes that enclose it, if any do. -/
def unquote (cs : List Char) : List Char :=
  match trim cs with
  | [] => []
  | [c] => [c]
  | c :: rest =>
    if quoteMarks.contains c && rest.getLast? == some c then rest.dropLast else c :: rest

/-- Takes an attribute phrase apart. -/
def ofChars (cs : List Char) : Object :=
  let (front, written) :=
    match search sampleHere cs with
    | some (front, sample) => (front, some (trim sample))
    | none => (cs, none)
  let trailing := written.bind (search typeHere)
  let sample := (trailing.map (·.1)).or written
  let leading := search typeHere front
  let type := (leading.map (·.2)).or (trailing.map (·.2))
  { name := Name.display (String.ofList ((leading.map (·.1)).getD front))
    declaredType := type.map fun t => String.ofList (trim t)
    sample := sample.map fun s => String.ofList (unquote s) }

end Object

end FactModel.Bullet
