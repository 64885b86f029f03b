import FactModel.Json.Basic

/-!
# Checking values against a form

A record is read from a JSON object field by field.  Every field is checked, so that all misfits
are reported at once, in the order in which the record lists its fields.
-/

namespace FactModel

/-- What is wrong with a value. -/
inductive Defect where
  /-- A required field is absent. -/
  | missing
  /-- The value is no text. -/
  | notText
  /-- The value is none of the words that a field may hold. -/
  | notChoice
  /-- The name of a member is none of those an object may have. -/
  | notMember
  /-- The value is no object. -/
  | notObject
  /-- The value is no path. -/
  | notPath
  /-- The value is no list. -/
  | notList
  /-- A list is longer than it may be. -/
  | tooLong
  /-- A text denotes no integer. -/
  | integerText
  /-- An integer is too large. -/
  | integerSize
  /-- A number has a fraction where an integer is wanted. -/
  | fraction
  /-- The value is no integer and cannot denote one. -/
  | notInteger
  /-- A number is infinite or none where an integer is wanted. -/
  | notFinite
  /-- A text denotes no number. -/
  | numberText
  /-- The value is no number and cannot denote one. -/
  | notNumber
  /-- A number is below the least allowed. -/
  | belowLeast
  /-- A number is not above its bound. -/
  | notAbove
  deriving DecidableEq, Repr

/-- A defect and the place in the record where it was found. -/
structure Misfit where
  path : List String
  defect : Defect
  deriving DecidableEq, Repr

/-- A misfit seen from the record around it. -/
def Misfit.within (name : String) (m : Misfit) : Misfit :=
  { m with path := name :: m.path }

/-- The outcome of a check: a value, or everything that is wrong. -/
inductive Checked (α : Type) where
  | fits (value : α)
  | misfits (found : List Misfit)
  deriving Repr

namespace Checked

/-- Applies a function to a checked value. -/
def map {α β : Type} (f : α → β) : Checked α → Checked β
  | .fits a => .fits (f a)
  | .misfits found => .misfits found

/-- Applies a checked function to a checked value; the misfits of both are kept. -/
def apply {α β : Type} (f : Checked (α → β)) (x : Checked α) : Checked β :=
  match f, x with
  | .fits f, .fits a => .fits (f a)
  | .fits _, .misfits found => .misfits found
  | .misfits found, .fits _ => .misfits found
  | .misfits found, .misfits more => .misfits (found ++ more)

instance : Functor Checked where
  map := map

instance : Applicative Checked where
  pure := .fits
  seq f x := apply f (x ())

/-- A single defect of the value itself. -/
def defect {α : Type} (defect : Defect) : Checked α :=
  .misfits [{ path := [], defect }]

/-- A checked value that must also pass a test. -/
def passing {α : Type} (test : α → Bool) (failure : Defect) (x : Checked α) : Checked α :=
  match x with
  | .fits a => if test a then .fits a else defect failure
  | .misfits found => .misfits found

/-- A check of a part, with its misfits seen from the whole. -/
def within {α : Type} (name : String) : Checked α → Checked α
  | .fits a => .fits a
  | .misfits found => .misfits (found.map (·.within name))

/-- All values of a list of checks, or the misfits of all of them. -/
def all {α : Type} : List (Checked α) → Checked (List α)
  | [] => .fits []
  | x :: rest => List.cons <$> x <*> all rest

/-- The checked value as a plain result. -/
def toExcept {α : Type} : Checked α → Except (List Misfit) α
  | .fits a => .ok a
  | .misfits found => .error found

end Checked

namespace Json

/-- A text. -/
def checkText : Json → Checked String
  | .text s => .fits s
  | _ => .defect .notText

/-- A text, or nothing. -/
def checkTextOrNull : Json → Checked (Option String)
  | .null => .fits none
  | j => some <$> j.checkText

/-- Any object. -/
def checkObject : Json → Checked Unit
  | .object _ => .fits ()
  | _ => .defect .notObject

/-- One of the words of a vocabulary. -/
def checkChoice {α : Type} (ofName? : String → Option α) (j : Json) : Checked α :=
  match j.asText?.bind ofName? with
  | some a => .fits a
  | none => .defect .notChoice

/-- A list of values of one form. -/
def checkList {α : Type} (check : Json → Checked α) : Json → Checked (List α)
  | .array js =>
    Checked.all (js.zipIdx.map fun (j, n) => (check j).within (toString n))
  | _ => .defect .notList

/-- A list of two texts. -/
def checkTextPair (j : Json) : Checked (String × String) :=
  let part (n : Nat) (js : List Json) : Checked String :=
    (match js[n]? with
      | some j => j.checkText
      | none => .defect .missing).within (toString n)
  match j with
  | .array js =>
    if 2 < js.length then .defect .tooLong
    else Prod.mk <$> part 0 js <*> part 1 js
  | _ => .defect .notList

/-- A field that must be there. -/
def checkField {α : Type} (name : String) (check : Json → Checked α) (j : Json) : Checked α :=
  (match j.field? name with
    | some value => check value
    | none => .defect .missing).within name

/-- A field that may be absent and then has a given value. -/
def checkFieldOr {α : Type} (name : String) (absent : α) (check : Json → Checked α) (j : Json) :
    Checked α :=
  match j.field? name with
  | some value => (check value).within name
  | none => .fits absent

end Json

end FactModel
