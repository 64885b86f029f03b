/-!
# Prompt templates

A template is a text with fields between braces.  A brace that stands for itself is written twice.
A field has a name and may have a conversion behind an exclamation mark and a layout behind a
colon.
-/

namespace FactModel.Prompt

/-- A field of a template. -/
structure Field where
  name : List Char
  conversion : Option Char
  /-- How the value is laid out.  The layout may hold fields itself. -/
  layout : List Char
  deriving DecidableEq, Repr

/-- A piece of a template. -/
inductive Piece where
  /-- A character that stands for itself. -/
  | char (c : Char)
  | field (field : Field)
  deriving DecidableEq, Repr

/-- Why a text is no template. -/
inductive TemplateError where
  /-- A closing brace without an opening one. -/
  | loneClose
  /-- An opening brace at the very end. -/
  | loneOpen
  /-- The text ends in the name of a field. -/
  | unclosedName
  /-- The name of a field holds an opening brace. -/
  | braceInName
  /-- The text ends where a conversion is to stand. -/
  | noConversion
  /-- A conversion is followed by something else than a colon or the end of the field. -/
  | longConversion
  /-- The text ends in the layout of a field. -/
  | unclosedLayout
  deriving DecidableEq, Repr

/-- The wording of a template error. -/
def TemplateError.message : TemplateError → String
  | .loneClose => "Single '\x7d' encountered in format string"
  | .loneOpen => "Single '\x7b' encountered in format string"
  | .unclosedName => "expected '\x7d' before end of string"
  | .braceInName => "unexpected '\x7b' in field name"
  | .noConversion => "end of string while looking for conversion specifier"
  | .longConversion => "expected ':' after conversion specifier"
  | .unclosedLayout => "unmatched '\x7b' in format spec"

namespace Field

/-- A character in front of the first part of a reading result. -/
def extend {α : Type} (c : Char) : List Char × α → List Char × α
  | (cs, rest) => (c :: cs, rest)

/-- Reads the name of a field: the name, the sign that ends it, and what remains.  Between square
brackets no sign ends a name. -/
def readName (bracket : Bool) :
    List Char → Except TemplateError (List Char × Char × List Char)
  | [] => .error .unclosedName
  | c :: cs =>
    if bracket then (readName (c ≠ ']') cs).map (extend c)
    else if c = '{' then .error .braceInName
    else if c = '}' ∨ c = ':' ∨ c = '!' then .ok ([], c, cs)
    else (readName (c = '[') cs).map (extend c)

/-- Reads a layout up to the brace that closes the last of `depth + 1` open ones: the layout, and
what remains. -/
def readLayout : (depth : Nat) → List Char → Except TemplateError (List Char × List Char)
  | _, [] => .error .unclosedLayout
  | depth, c :: cs =>
    if c = '{' then (readLayout (depth + 1) cs).map (extend c)
    else if c = '}' then
      match depth with
      | 0 => .ok ([], cs)
      | depth + 1 => (readLayout depth cs).map (extend c)
    else (readLayout depth cs).map (extend c)

/-- Reads a field behind its opening brace: the field, and what remains. -/
def read (cs : List Char) : Except TemplateError (Field × List Char) := do
  let (name, sign, rest) ← readName false cs
  if sign = '}' then return ({ name, conversion := none, layout := [] }, rest)
  else if sign = ':' then
    let (layout, rest) ← readLayout 0 rest
    return ({ name, conversion := none, layout }, rest)
  else
    match rest with
    | [] => throw .noConversion
    | [_] => throw .unclosedLayout
    | c :: '}' :: rest => return ({ name, conversion := some c, layout := [] }, rest)
    | c :: ':' :: rest =>
      let (layout, rest) ← readLayout 0 rest
      return ({ name, conversion := some c, layout }, rest)
    | _ => throw .longConversion

end Field

/-- What is read of a template: its pieces in front of the first mistake, and the mistake. -/
structure Reading where
  pieces : List Piece
  error : Option TemplateError
  deriving DecidableEq, Repr

/-- A piece in front of what is read. -/
def Reading.cons (piece : Piece) (r : Reading) : Reading :=
  { r with pieces := piece :: r.pieces }

/-- Nothing but a mistake. -/
def Reading.mistake (error : TemplateError) : Reading :=
  { pieces := [], error := some error }

/-- Reads the pieces of a template.  The bound is on their number. -/
def readPieces : (bound : Nat) → List Char → Reading
  | 0, _ => { pieces := [], error := none }
  | _ + 1, [] => { pieces := [], error := none }
  | bound + 1, '{' :: '{' :: rest => (readPieces bound rest).cons (.char '{')
  | bound + 1, '}' :: '}' :: rest => (readPieces bound rest).cons (.char '}')
  | bound + 1, c :: rest =>
    if c = '}' then .mistake .loneClose
    else if c = '{' then
      if rest = [] then .mistake .loneOpen
      else
        match Field.read rest with
        | .error mistake => .mistake mistake
        | .ok (f, rest) => (readPieces bound rest).cons (.field f)
    else (readPieces bound rest).cons (.char c)

/-- Reads a template. -/
def Reading.ofTemplate (template : List Char) : Reading :=
  readPieces template.length template

/-- The name of the field that a piece is, unless it is empty. -/
def Piece.name? : Piece → Option String
  | .char _ => none
  | .field f => if f.name = [] then none else some (String.ofList f.name)

/-- The names of the fields of a template in alphabetical order, each once. -/
def placeholders (template : String) : Except TemplateError (List String) :=
  let reading := Reading.ofTemplate template.toList
  reading.error.elim (.ok (reading.pieces.filterMap Piece.name?).mergeSort.eraseDups) .error

/-- A text as a template that stands for it. -/
def literal (cs : List Char) : List Char :=
  cs.flatMap fun c => if c = '{' ∨ c = '}' then [c, c] else [c]

/-- Reading a literal text gives its characters back. -/
theorem readPieces_literal (cs : List Char) {bound : Nat} (enough : (literal cs).length ≤ bound) :
    readPieces bound (literal cs) = { pieces := cs.map .char, error := none } := by
  induction cs generalizing bound with
  | nil => cases bound <;> rfl
  | cons c cs ih =>
    have unfolded : literal (c :: cs) =
        (if c = '{' ∨ c = '}' then [c, c] else [c]) ++ literal cs := by
      simp [literal]
    rw [unfolded] at enough ⊢
    by_cases opening : c = '{'
    · subst opening
      cases bound with
      | zero => simp at enough
      | succ bound =>
        have shorter : (literal cs).length ≤ bound := by
          simp at enough
          omega
        simp [readPieces, ih shorter, Reading.cons]
    · by_cases closing : c = '}'
      · subst closing
        cases bound with
        | zero => simp at enough
        | succ bound =>
          have shorter : (literal cs).length ≤ bound := by
            simp at enough
            omega
          simp [readPieces, ih shorter, Reading.cons]
      · cases bound with
        | zero => simp [opening, closing] at enough
        | succ bound =>
          have shorter : (literal cs).length ≤ bound := by
            simp [opening, closing] at enough
            omega
          simp [readPieces, opening, closing, ih shorter, Reading.cons]

end FactModel.Prompt
