import FactModel.Text.Phrase

/-!
# Semantic types

The kind of value an attribute holds, declared in parentheses or guessed from the attribute's name.
-/

namespace FactModel

/-- The kind of value an attribute holds. -/
inductive SemanticType where
  | string
  | date
  | number
  | reference
  deriving DecidableEq, Repr

namespace SemanticType

open FactModel.Text

/-- The name of a type in models and reports. -/
def name : SemanticType → String
  | .string => "String"
  | .date => "Date"
  | .number => "Number"
  | .reference => "Reference"

/-- All types, in their usual order. -/
def all : List SemanticType :=
  [.string, .date, .number, .reference]

/-- The type of a given name. -/
def ofName? (text : String) : Option SemanticType :=
  all.find? (·.name == text)

/-- The types that a model may declare, by the words for them. -/
def declared : List (String × SemanticType) :=
  [("string", .string), ("text", .string), ("varchar", .string), ("date", .date),
   ("datetime", .date), ("timestamp", .date), ("time", .date), ("number", .number),
   ("numeric", .number), ("integer", .number), ("int", .number), ("decimal", .number),
   ("float", .number), ("amount", .number)]

/-- The type that a word declares, in any case and with blanks around it. -/
def ofDeclaration? (word : String) : Option SemanticType :=
  let low := String.ofList (lower (trim word.toList))
  (declared.find? (·.1 == low)).map (·.2)

/-- Words that make an attribute a date. -/
def dateWords : List String :=
  ["date", "time", "day", "timestamp", "datetime", "birthday"]

/-- Words that make an attribute a number. -/
def numberWords : List String :=
  ["number", "count", "amount", "quantity", "price", "total", "age", "cost", "balance"]

/-- The type suggested by the name of an attribute. -/
def ofAttributeName (name : String) : SemanticType :=
  if mentionsAny dateWords name.toList then .date
  else if mentionsAny numberWords name.toList then .number
  else .string

/-- Names tell types apart. -/
@[simp]
theorem ofName?_name (t : SemanticType) : ofName? t.name = some t := by
  cases t <;> decide

end SemanticType

end FactModel
