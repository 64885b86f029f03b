import FactModel.Json.Reader
import FactModel.Text.Blank
import FactModel.Text.Word

/-!
# Finding a JSON object in a text

A reply to a question is prose that should hold one JSON object: in a fence, between braces, or as
the whole text.  Small mistakes in the object are mended.
-/

namespace FactModel.Json

open FactModel.Text

/-! ## Where the object stands -/

/-- The marks of a fence. -/
def fence : List Char :=
  List.replicate 3 '`'

/-- The shortest text up to a closing brace behind which, blanks aside, the fence closes. -/
def fencedBody : List Char → Option (List Char)
  | [] => none
  | c :: cs =>
    if c = '}' ∧ fence.isPrefixOf (cs.dropWhile isBlank) then some [c]
    else (fencedBody cs).map (c :: ·)

/-- The object behind an opening fence at the front. -/
def fencedAt (cs : List Char) : Option (List Char) :=
  if fence.isPrefixOf cs then
    let cs := cs.drop fence.length
    let cs := if "json".toList.isPrefixOf cs then cs.drop 4 else cs
    match cs.dropWhile isBlank with
    | '{' :: rest => (fencedBody rest).map ('{' :: ·)
    | _ => none
  else none

/-- The object in the first fence that holds one. -/
def fenced? : List Char → Option (List Char)
  | [] => none
  | c :: cs =>
    match fencedAt (c :: cs) with
    | some body => some body
    | none => fenced? cs

/-- A text up to the brace that closes the last of `depth + 1` open ones. -/
def closing : Nat → List Char → Option (List Char)
  | _, [] => none
  | depth, c :: cs =>
    if c = '{' then (closing (depth + 1) cs).map (c :: ·)
    else if c = '}' then
      match depth with
      | 0 => some [c]
      | depth + 1 => (closing depth cs).map (c :: ·)
    else (closing depth cs).map (c :: ·)

/-- The text from the first opening brace to the brace that closes it. -/
def braced? (cs : List Char) : Option (List Char) :=
  match cs.dropWhile (· ≠ '{') with
  | [] => none
  | c :: rest => (closing 0 rest).map (c :: ·)

/-! ## Mending -/

/-- Leaves out commas in front of closing brackets. -/
def dropCommas : List Char → List Char
  | [] => []
  | c :: cs =>
    let next := (cs.dropWhile isBlank).head?
    if c = ',' ∧ (next = some '}' ∨ next = some ']') then dropCommas cs else c :: dropCommas cs

/-- What follows a name between single quotes and the colon behind it, and the name. -/
def quotedName (cs : List Char) : Option (List Char × List Char) :=
  let name := cs.takeWhile isWord
  match cs.dropWhile isWord with
  | '\'' :: rest =>
    match rest.dropWhile isBlank with
    | ':' :: rest => if name = [] then none else some (name, rest)
    | _ => none
  | _ => none

/-- Puts names into double quotes.  The bound is on the number of characters. -/
def quoteNames : (bound : Nat) → List Char → List Char
  | 0, cs => cs
  | _ + 1, [] => []
  | bound + 1, c :: cs =>
    match if c = '\'' then quotedName cs else none with
    | some (name, rest) => '"' :: name ++ ['"', ':'] ++ quoteNames bound rest
    | none => c :: quoteNames bound cs

/-- A text with small mistakes mended. -/
def mend (cs : List Char) : List Char :=
  let cs := dropCommas cs
  quoteNames cs.length cs

/-! ## Reading -/

/-- Where an object was looked for. -/
inductive Place where
  | fence
  | braces
  | whole
  deriving DecidableEq, Repr

/-- The name of a place in reports. -/
def Place.name : Place → String
  | .fence => "Code block"
  | .braces => "JSON object"
  | .whole => "Full text"

/-- The outcome of reading one candidate: an object, or reports on what is wrong. -/
inductive Attempt where
  | found (members : List (String × Json))
  | failed (reports : List String)

/-- Reads a candidate, first as it is and then mended.  A value that is no object ends the attempt,
and so does an integer with too many digits, which ends the whole search. -/
def attempt (place : Place) (cs : List Char) : Except CountError Attempt :=
  let report (cs : List Char) (fault : Fault) (remaining : Nat) : String :=
    s!"{place.name}: {faultMessage cs fault remaining}"
  let notObject := s!"{place.name}: expected a JSON object"
  let mended := mend cs
  match read cs with
  | .ok (.object members) => .ok (.found members)
  | .ok _ => .ok (.failed [notObject])
  | .error (.count error) => .error error
  | .error (.fault fault remaining) =>
    let first := report cs fault remaining
    match read mended with
    | .ok (.object members) => .ok (.found members)
    | .ok _ => .ok (.failed [first, notObject])
    | .error (.count error) => .error error
    | .error (.fault fault remaining) => .ok (.failed [first, report mended fault remaining])

/-- Why no object is extracted. -/
inductive ExtractError where
  /-- No candidate is an object; the reports on all attempts. -/
  | noObject (reports : List String)
  /-- An integer has too many digits. -/
  | count (error : CountError)
  deriving DecidableEq, Repr

/-- How many reports a message shows, the last ones. -/
def shownReports : Nat := 3

/-- The wording of a failure. -/
def ExtractError.message : ExtractError → String
  | .noObject reports =>
    "Could not extract valid JSON from LLM output. Errors: " ++
      String.intercalate "; " (reports.drop (reports.length - shownReports))
  | .count error => error.message

/-- Tries candidates one after the other. -/
def firstObject (reports : List String) : List (Place × List Char) → Except ExtractError Json
  | [] => .error (.noObject reports)
  | (place, cs) :: rest =>
    match attempt place cs with
    | .error error => .error (.count error)
    | .ok (.found members) => .ok (.object members)
    | .ok (.failed more) => firstObject (reports ++ more) rest

/-- The candidates in a text: the object in a fence, the one between braces, the whole text. -/
def candidates (cs : List Char) : List (Place × List Char) :=
  ((fenced? cs).map fun body => (Place.fence, body)).toList ++
    ((braced? cs).map fun body => (Place.braces, body)).toList ++ [(Place.whole, trim cs)]

/-- The JSON object in a text. -/
def extract (text : String) : Except ExtractError Json :=
  firstObject [] (candidates text.toList)

end FactModel.Json
