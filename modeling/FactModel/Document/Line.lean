import FactModel.Name
import FactModel.Text.Blank

/-!
# Lines of a model text

A model text is read line by line.  Fences enclose text that is no part of the model; outside of
them a line is blank, the header of an entity, a bullet, a heading, or prose.
-/

namespace FactModel

open FactModel.Text

/-- What a line is by its form. -/
inductive Line where
  /-- A fence mark or a line inside a fence. -/
  | fenced
  | blank
  /-- The bold name of an entity and what follows it, with the whole line as written. -/
  | header (name description text : String)
  /-- The text behind a bullet mark. -/
  | bullet (body : List Char)
  | heading
  /-- Anything else, as written. -/
  | prose (text : List Char)
  deriving DecidableEq, Repr

namespace Line

/-- Three back quotes open and close a fence. -/
def fenceMark : List Char :=
  List.replicate 3 (Char.ofNat 0x60)

/-- The name and the description of a header: `**Name**: description`, `**Name:** description` or
`**Name**` alone. -/
def header? (text : List Char) : Option (List Char × List Char) :=
  match text with
  | '*' :: '*' :: rest =>
    let isNameChar := fun c => c ≠ '*' ∧ c ≠ ':'
    let name := rest.takeWhile isNameChar
    if name = [] then none
    else
      match rest.dropWhile isNameChar with
      | ':' :: '*' :: '*' :: description => some (name, trim description)
      | '*' :: '*' :: tail =>
        match tail.dropWhile isBlank with
        | [] => some (name, [])
        | ':' :: description => some (name, trim description)
        | _ => none
      | _ => none
  | _ => none

/-- The body of a bullet: a dash, asterisk or plus sign, blanks, and something behind them. -/
def bullet? (raw : List Char) : Option (List Char) :=
  match raw.dropWhile isBlank with
  | mark :: gap :: rest =>
    if (mark = '-' ∨ mark = '*' ∨ mark = '+') ∧ isBlank gap ∧ trim rest ≠ [] then
      some (trim rest)
    else none
  | _ => none

/-- The form of a line outside fences. -/
def ofRaw (raw : List Char) : Line :=
  let text := trim raw
  if text = [] then .blank
  else
    match header? text with
    | some (name, description) =>
      .header (Name.display (String.ofList name)) (String.ofList description) (String.ofList text)
    | none =>
      match bullet? raw with
      | some body => .bullet body
      | none => if text.head? = some '#' then .heading else .prose text

/-- Whether a line opens or closes a fence. -/
def isFenceMark (raw : List Char) : Bool :=
  fenceMark.isPrefixOf (trim raw)

/-- The forms of successive lines, the first of them inside a fence or not. -/
def ofRaws (inFence : Bool) : List (List Char) → List Line
  | [] => []
  | raw :: raws =>
    if isFenceMark raw then .fenced :: ofRaws (!inFence) raws
    else (if inFence then .fenced else ofRaw raw) :: ofRaws inFence raws

/-- Every line has a form. -/
@[simp]
theorem length_ofRaws (inFence : Bool) (raws : List (List Char)) :
    (ofRaws inFence raws).length = raws.length := by
  induction raws generalizing inFence with
  | nil => rfl
  | cons raw raws ih =>
    unfold ofRaws
    split <;> simp [ih]

/-- The lines of a text with their numbers, counted from one. -/
def ofText (text : String) : List (Nat × Line) :=
  ((ofRaws false (lines text.toList)).zipIdx 1).map fun (line, n) => (n, line)

/-- Enters a name unless one of its key is there. -/
def enter (names : List String) (name : String) : List String :=
  if names.any (Name.key · == Name.key name) then names else names ++ [name]

/-- The names entered so far and those of the headers of further lines, the first of them inside a
fence or not. -/
def scanHeaders (inFence : Bool) (names : List String) : List (List Char) → List String
  | [] => names
  | raw :: raws =>
    if isFenceMark raw then scanHeaders (!inFence) names raws
    else if inFence then scanHeaders inFence names raws
    else
      match header? (trim raw) with
      | some (name, _) =>
        scanHeaders inFence (enter names (Name.display (String.ofList name))) raws
      | none => scanHeaders inFence names raws

/-- The names of the headers of a text, later spellings of a name left out.  They are known before
any line is read, so that this scan finds the fences by itself. -/
def scannedNames (text : String) : List String :=
  scanHeaders false [] (lines text.toList)

/-- The name in the header of an entity. -/
def headerName? : Nat × Line → Option String
  | (_, .header name _ _) => some name
  | _ => none

/-- The names of the headers among lines that have been read, later spellings left out. -/
def declaredNames (ls : List (Nat × Line)) : List String :=
  (ls.filterMap headerName?).foldl enter []

theorem scanHeaders_eq (inFence : Bool) (names : List String) (raws : List (List Char)) (n : Nat) :
    scanHeaders inFence names raws =
      ((((ofRaws inFence raws).zipIdx n).map fun (line, n) => (n, line)).filterMap
        headerName?).foldl enter names := by
  induction raws generalizing inFence names n with
  | nil => rfl
  | cons raw raws ih =>
    unfold scanHeaders ofRaws
    split
    · exact ih (!inFence) names (n + 1)
    · cases inFence with
      | true => exact ih true names (n + 1)
      | false =>
        rw [if_neg (by decide), if_neg (by decide), ofRaw]
        by_cases blank : trim raw = []
        · have headless : header? (trim raw) = none := by rw [blank]; rfl
          rw [if_pos blank, headless]
          exact ih false names (n + 1)
        · rw [if_neg blank]
          split
          · exact ih false _ (n + 1)
          · rw [ih false names (n + 1)]
            split
            · rfl
            · split <;> rfl

/-- The scan for names and the reading of the lines see the same headers. -/
theorem scannedNames_eq (text : String) : scannedNames text = declaredNames (ofText text) :=
  scanHeaders_eq false [] (lines text.toList) 1

end Line

end FactModel
