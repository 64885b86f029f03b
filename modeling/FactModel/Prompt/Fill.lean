import FactModel.Prompt.NumberLayout
import FactModel.Prompt.Template

/-!
# Filling templates

Every field of a template is replaced by the value of its name.  All names are looked for before
anything is filled in.
-/

namespace FactModel.Prompt

open FactModel.Text

/-- Why a template is not filled. -/
inductive FillError where
  /-- The template is given among the values once more. -/
  | secondTemplate
  | template (error : TemplateError)
  /-- Fields without a value. -/
  | missing (names : List String)
  /-- A field is named by a position, and values have no positions. -/
  | noPosition (position : Nat)
  /-- A position is too large. -/
  | hugePosition
  /-- The first part of a compound name has no value. -/
  | unknownName (name : String)
  | part (error : PartError)
  /-- A part of a compound name is empty. -/
  | emptyPart
  /-- A position in a value is not closed. -/
  | openPosition
  /-- Something else than a part follows a position. -/
  | noMark
  | conversion (letter : Char)
  | layout (error : LayoutError)
  /-- Layouts hold fields whose layouts hold fields. -/
  | tooDeep
  deriving DecidableEq, Repr

/-- The name under which the template itself is given. -/
def templateName : String := "template"

/-- The wording of a failure. -/
def FillError.message : FillError → String
  | .secondTemplate =>
    s!"render_prompt() got multiple values for argument '{templateName}'"
  | .template error => error.message
  | .missing names =>
    "Prompt placeholders without a value: " ++ String.intercalate ", " names
  | .noPosition position =>
    s!"Replacement index {position} out of range for positional args tuple"
  | .hugePosition => hugeNumber
  | .unknownName name => name
  | .part error => error.message
  | .emptyPart => "Empty attribute in format string"
  | .openPosition => "Missing ']' in format string"
  | .noMark => "Only '.' or '[' may follow ']' in format field specifier"
  | .conversion letter =>
    if 32 < letter.toNat ∧ letter.toNat < 127 then s!"Unknown conversion specifier {letter}"
    else "Unknown conversion specifier \\x" ++ String.ofList (hex 0 letter.toNat)
  | .layout error => error.message
  | .tooDeep => "Max string recursion exceeded"

/-- The values of a template's fields by name. -/
abbrev Values := List (String × Json)

/-- The value of a name. -/
def Values.get? (values : Values) (name : String) : Option Json :=
  Keyed.get? name values

namespace Field

/-- Whether a character begins a part behind the first part of a compound name. -/
def isPartMark (c : Char) : Bool :=
  c == '.' || c == '['

/-- Follows the parts of a compound name into a value.  The bound is on the number of parts. -/
def follow : (bound : Nat) → (parts : List Char) → Value → Except FillError Value
  | 0, _, v => .ok v
  | _ + 1, [], v => .ok v
  | bound + 1, mark :: rest, v =>
    if mark = '.' then
      let part := rest.takeWhile (!isPartMark ·)
      if part = [] then .error .emptyPart
      else
        match v.part (String.ofList part) with
        | .error e => .error (.part e)
        | .ok v => follow bound (rest.dropWhile (!isPartMark ·)) v
    else if mark = '[' then
      let part := rest.takeWhile (· ≠ ']')
      match rest.dropWhile (· ≠ ']') with
      | [] => .error .openPosition
      | _ :: rest =>
        if isHuge (part.takeWhile isDecimal) then .error .hugePosition
        else if part = [] then .error .emptyPart
        else
          match v.element (positionOf part) with
          | .error e => .error (.part e)
          | .ok v => follow bound rest v
    else .error .noMark
where
  /-- The position that a part stands for. -/
  positionOf (part : List Char) : Nat ⊕ String :=
    if part.all isDecimal then .inl (Count.decimal part) else .inr (String.ofList part)

/-- The value that a field names. -/
def value (values : Values) (f : Field) : Except FillError Value :=
  let first := f.name.takeWhile (!isPartMark ·)
  let parts := f.name.dropWhile (!isPartMark ·)
  if isHuge (first.takeWhile isDecimal) then .error .hugePosition
  else if first.all isDecimal then .error (.noPosition (Count.decimal first))
  else
    match values.get? (String.ofList first) with
    | none => .error (.unknownName (String.ofList first))
    | some j => follow parts.length parts (.given j)

/-- A character in ASCII, escaped where it is not. -/
def asciiChar (c : Char) : List Char :=
  let n := c.toNat
  if n < 0x80 then [c]
  else if n < 0x100 then '\\' :: 'x' :: hex 2 n
  else if n < 0x10000 then '\\' :: 'u' :: hex 4 n
  else '\\' :: 'U' :: hex 8 n

/-- A value by a conversion: as it is, as a text, between quotes, or between quotes in ASCII. -/
def convert (conversion : Option Char) (v : Value) : Except FillError Value :=
  match conversion with
  | none => .ok v
  | some 's' => .ok (.ofText v.shown)
  | some 'r' => .ok (.ofText v.quoted)
  | some 'a' => .ok (.ofText (String.ofList (v.quoted.toList.flatMap asciiChar)))
  | some letter => .error (.conversion letter)

end Field

/-- Fills a template, piece after piece up to its first mistake.  The depth bounds how often layouts
may hold fields. -/
def fill (values : Values) : (depth : Nat) → List Char → Except FillError (List Char)
  | 0, _ => .error .tooDeep
  | depth + 1, template => do
    let reading := Reading.ofTemplate template
    let texts ← reading.pieces.mapM fun
      | .char c => pure [c]
      | .field f => do
        let v ← f.value values
        let v ← Field.convert f.conversion v
        let layout ← if f.layout.contains '{' then fill values depth f.layout else pure f.layout
        (v.layOut layout).mapError .layout
    reading.error.elim (pure texts.flatten) fun mistake => throw (.template mistake)

/-- How often layouts may hold fields, the template itself included. -/
def maxDepth : Nat := 2

/-- The names of a template's fields that have no value. -/
def missingNames (values : Values) (names : List String) : List String :=
  names.filter fun name => (values.get? name).isNone

/-- Renders a template whose fields all have values.  No value may have the name of the template. -/
def render (template : String) (values : Values) : Except FillError String := do
  if (values.get? templateName).isSome then throw .secondTemplate
  let names ← (placeholders template).mapError .template
  let missing := missingNames values names
  if missing ≠ [] then throw (.missing missing)
  return String.ofList (← fill values maxDepth template.toList)

end FactModel.Prompt
