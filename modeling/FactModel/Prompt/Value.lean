import FactModel.Json.Writer

/-!
# Values in templates

What the fields of a template name: the given values, their parts, and the kinds that values are of.
-/

namespace FactModel.Prompt

/-- A kind of values. -/
inductive Kind where
  | text
  | integer
  | number
  | truth
  | nothing
  | list
  | record
  | tuple
  /-- The kind of kinds. -/
  | category
  /-- The kind of all values. -/
  | anything
  deriving DecidableEq, Repr

namespace Kind

/-- The name of a kind. -/
def name : Kind → String
  | .text => "str"
  | .integer => "int"
  | .number => "float"
  | .truth => "bool"
  | .nothing => "NoneType"
  | .list => "list"
  | .record => "dict"
  | .tuple => "tuple"
  | .category => "type"
  | .anything => "object"

/-- A kind and the wider kinds around it, the widest last. -/
def line : Kind → List Kind
  | .anything => [.anything]
  | .truth => [.truth, .integer, .anything]
  | k => [k, .anything]

/-- A kind in a text. -/
def shown (k : Kind) : String :=
  s!"<class '{k.name}'>"

/-- The widest kind is around every kind. -/
theorem getLast?_line (k : Kind) : k.line.getLast? = some .anything := by
  cases k <;> rfl

end Kind

/-- Something that a field names. -/
inductive Value where
  | given (value : Json)
  | kind (kind : Kind)
  | kinds (kinds : List Kind)
  deriving Repr

/-- Why a value has no such part. -/
inductive PartError where
  /-- No part of a value of that kind has such a name. -/
  | noPart (kind : Kind) (name : String)
  /-- No part of that kind itself has such a name. -/
  | noKindPart (kind : Kind) (name : String)
  /-- Values of that kind have no positions. -/
  | noPositions (kind : Kind)
  /-- That kind itself has no positions. -/
  | noKindPositions (kind : Kind)
  /-- A position is no number. -/
  | notPosition (kind : Kind)
  /-- A position is behind the end. -/
  | tooShort (kind : Kind)
  /-- A record has no such member. -/
  | noMember (name : String)
  deriving DecidableEq, Repr

/-- The word for a value of a kind with positions. -/
def Kind.positioned : Kind → String
  | .text => "string"
  | k => k.name

/-- The wording of a failure. -/
def PartError.message : PartError → String
  | .noPart kind name => s!"'{kind.name}' object has no attribute '{name}'"
  | .noKindPart kind name => s!"type object '{kind.name}' has no attribute '{name}'"
  | .noPositions kind => s!"'{kind.name}' object is not subscriptable"
  | .noKindPositions kind => s!"type '{kind.name}' is not subscriptable"
  | .notPosition .text => "string indices must be integers, not 'str'"
  | .notPosition kind => s!"{kind.name} indices must be integers or slices, not str"
  | .tooShort kind => s!"{kind.positioned} index out of range"
  | .noMember name => name

namespace Value

/-- The kind of a value. -/
def kindOf : Value → Kind
  | .given .null => .nothing
  | .given (.bool _) => .truth
  | .given (.int _) => .integer
  | .given (.decimal _) | .given .nan | .given (.infinite _) => .number
  | .given (.text _) => .text
  | .given (.array _) => .list
  | .given (.object _) => .record
  | .kind _ => .category
  | .kinds _ => .tuple

/-- Kinds in a text. -/
def shownKinds (kinds : List Kind) : String :=
  match kinds with
  | [k] => "(" ++ k.shown ++ ",)"
  | ks => "(" ++ String.intercalate ", " (ks.map Kind.shown) ++ ")"

/-- A value in a text. -/
def shown : Value → String
  | .given j => j.shown
  | .kind k => k.shown
  | .kinds ks => shownKinds ks

/-- A value in a text, a text between quotes. -/
def quoted : Value → String
  | .given j => j.shownInside
  | v => v.shown

/-- A text as a value. -/
def ofText (text : String) : Value :=
  .given (.text text)

/-- The part of a kind that has a name. -/
def kindPart (k : Kind) (name : String) : Except PartError Value :=
  match name with
  | "__name__" | "__qualname__" => .ok (ofText k.name)
  | "__module__" => .ok (ofText "builtins")
  | "__mro__" => .ok (.kinds k.line)
  | "__bases__" => .ok (.kinds ((k.line.drop 1).take 1))
  | "__base__" => .ok (((k.line.drop 1).head?).elim (.given .null) .kind)
  | _ => .error (.noKindPart k name)

/-- The part of a value that has a name.  Every value has its kind, and numbers have parts as
fractions and as points of the plane. -/
def part (v : Value) (name : String) : Except PartError Value :=
  if name = "__class__" then .ok (.kind v.kindOf)
  else
    match v with
    | .kind k => kindPart k name
    | .given (.bool b) => wholePart (if b then 1 else 0)
    | .given (.int n) => wholePart n
    | _ =>
      if v.kindOf = .number ∧ name = "real" then .ok v
      else if v.kindOf = .number ∧ name = "imag" then
        .ok (.given (.decimal { negative := false, mantissa := 0, exponent := 0 }))
      else .error (.noPart v.kindOf name)
where
  /-- The part of an integer that has a name. -/
  wholePart (n : Int) : Except PartError Value :=
    match name with
    | "real" | "numerator" => .ok (.given (.int n))
    | "imag" => .ok (.given (.int 0))
    | "denominator" => .ok (.given (.int 1))
    | _ => .error (.noPart v.kindOf name)

/-- The part of a value that stands at a position: a position of its own among characters or elements,
a name among members. -/
def element (v : Value) (position : Nat ⊕ String) : Except PartError Value :=
  match v, position with
  | .given (.object ms), .inl n => member ms (toString n) false
  | .given (.object ms), .inr name => member ms name true
  | .given (.text s), .inl n => found .text (s.toList[n]?) fun c => ofText (String.singleton c)
  | .given (.array js), .inl n => found .list (js[n]?) .given
  | .kinds ks, .inl n => found .tuple (ks[n]?) .kind
  | .given (.text _), .inr _ => .error (.notPosition .text)
  | .given (.array _), .inr _ => .error (.notPosition .list)
  | .kinds _, .inr _ => .error (.notPosition .tuple)
  | .kind k, _ => .error (.noKindPositions k)
  | _, _ => .error (.noPositions v.kindOf)
where
  /-- The member of a record that has a name; no member is named by a number. -/
  member (ms : List (String × Json)) (name : String) (named : Bool) : Except PartError Value :=
    match if named then Keyed.get? name ms else none with
    | some j => .ok (.given j)
    | none => .error (.noMember name)
  /-- What stands at a position. -/
  found {α : Type} (kind : Kind) (x? : Option α) (wrap : α → Value) :
      Except PartError Value :=
    x?.elim (.error (.tooShort kind)) fun x => .ok (wrap x)

end Value

end FactModel.Prompt
