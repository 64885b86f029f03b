import FactModel.Json.Checked

/-!
# Intents

What a question asks for, in terms of the graph: the shape of the answer, an entity, and the names
and values that the question mentions.
-/

namespace FactModel

/-- The shape of an answer. -/
inductive Shape where
  | count
  | lookup
  | min
  | max
  | filter
  deriving DecidableEq, Repr

namespace Shape

/-- The word for a shape. -/
def name : Shape → String
  | .count => "count"
  | .lookup => "lookup"
  | .min => "min"
  | .max => "max"
  | .filter => "filter"

/-- All shapes. -/
def all : List Shape :=
  [.count, .lookup, .min, .max, .filter]

/-- The shape that a word names. -/
def ofName? (word : String) : Option Shape :=
  all.find? (·.name == word)

/-- Words tell shapes apart. -/
theorem ofName?_name (s : Shape) : ofName? s.name = some s := by
  cases s <;> decide

end Shape

/-- What a question asks for. -/
structure Intent where
  shape : Shape
  entity : String
  /-- The attribute asked for. -/
  attr : Option String
  /-- The identifier of the row asked for. -/
  keyValue : Option String
  filterAttr : Option String
  filterValue : Option String
  deriving DecidableEq, Repr

/-- An intent that asks for nothing but a shape of answer about an entity. -/
def Intent.plain (shape : Shape) (entity : String) : Intent :=
  { shape, entity, attr := none, keyValue := none, filterAttr := none, filterValue := none }

/-- Reads an intent from a record.  Shape and entity must be there; what is no field is ignored. -/
def Intent.ofJson (j : Json) : Checked Intent :=
  match j with
  | .object _ =>
    Intent.mk <$> j.checkField "shape" (Json.checkChoice Shape.ofName?)
      <*> j.checkField "entity" Json.checkText
      <*> j.checkFieldOr "attribute" none Json.checkTextOrNull
      <*> j.checkFieldOr "key_value" none Json.checkTextOrNull
      <*> j.checkFieldOr "filter_attribute" none Json.checkTextOrNull
      <*> j.checkFieldOr "filter_value" none Json.checkTextOrNull
  | _ => .defect .notObject

end FactModel
