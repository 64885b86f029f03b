import FactModel.Prompt.Fill
import FactModel.Text.PathName

/-!
# The prompts of the question resolver

The templates of what a chat model is told: its task with the model at hand, and the question.
-/

namespace FactModel.Prompt

open FactModel.Text

/-- The template of the task; its field is `MODEL`. -/
def task : String :=
  "You map a business question onto a knowledge graph of entities and attributes.

Answer with ONE JSON object and nothing else:

\x7b\x7b
  \"shape\": \"count\" | \"lookup\" | \"min\" | \"max\" | \"filter\",
  \"entity\": \"<entity name exactly as listed>\",
  \"attribute\": \"<attribute name exactly as listed, or null>\",
  \"key_value\": \"<identifier value for lookups, or null>\",
  \"filter_attribute\": \"<attribute name, or null>\",
  \"filter_value\": \"<value, or null>\"
\x7d\x7d

Rules:
- Use only entity and attribute names that appear in the model below.
- \"count\" answers \"how many\"; \"min\"/\"max\" answer earliest/latest, lowest/highest.
- \"lookup\" fetches one row by its identifier; \"filter\" selects rows where an attribute equals a value.
- If the question cannot be answered from the model, still pick the closest entity; never invent names.

MODEL:
\x7bMODEL\x7d
"

/-- The template of a question; its field is `QUESTION`. -/
def question : String :=
  "QUESTION:\n\x7bQUESTION\x7d\n"

/-- The templates by name. -/
def shipped : List (String × String) :=
  [("resolver_system.txt", task), ("resolver_user.txt", question)]

/-- The directories around the templates, each by its parts from the outermost one on. -/
structure Shelf where
  directories : List (List String)
  /-- The directory of the templates. -/
  home : List String
  deriving DecidableEq, Repr

/-- Follows the parts of a path through directories; none when they lead elsewhere. -/
def Shelf.follow (s : Shelf) : (place : List String) → (parts : List (List Char)) →
    Option (List String)
  | place, [] => some place
  | place, part :: parts =>
    if part = ['.', '.'] then if place = [] then none else s.follow place.dropLast parts
    else
      let next := place ++ [String.ofList part]
      if s.directories.contains next then s.follow next parts else none

/-- The template of a given name, which may be a path that leads to it. -/
def Shelf.template? (s : Shelf) (name : String) : Option String :=
  let path := PathName.ofString name
  if path.root = [] ∧ s.follow s.home path.parts.dropLast = some s.home then
    (shipped.find? fun (file, _) => path.parts.getLast? == some file.toList).map (·.2)
  else none

/-- The report that there is no template of a given name. -/
def unknownName (name : String) : String :=
  s!"Prompt template '{name}' not found. Available: " ++
    String.intercalate ", " (shipped.map (·.1))

end FactModel.Prompt
