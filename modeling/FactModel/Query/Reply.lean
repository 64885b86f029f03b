import FactModel.Json.Extract
import FactModel.Prompt.Shipped
import FactModel.Query.Keyword

/-!
# Resolving questions by replies

A chat model answers a question with a reply that holds an intent as a JSON object.
-/

namespace FactModel.Reply

/-- Why a reply is of no use. -/
inductive ReplyError where
  | unresolved (error : ResolveError)
  /-- An integer in the reply has too many digits. -/
  | count (error : CountError)
  deriving DecidableEq, Repr

/-- The intent that a reply holds. -/
def resolve (reply : String) : Except ReplyError Intent :=
  match Json.extract reply with
  | .error (.count error) => .error (.count error)
  | .error (.noObject reports) =>
    .error (.unresolved (.notJson (Json.ExtractError.noObject reports).message))
  | .ok j =>
    match Intent.ofJson j with
    | .fits intent => .ok intent
    | .misfits found => .error (.unresolved (.notIntent found))

/-! ## What a chat model is told -/

/-- An explicit attribute as it is listed. -/
def explicitPart (a : Attribute) : String :=
  s!"{a.name} ({a.type.name}" ++ (if a.identifying then ", identifier)" else ")")

/-- A derived attribute as it is listed. -/
def derivedPart (d : DerivedAttribute) : String :=
  s!"{d.name} ({d.type.name}, derived)"

/-- The attributes of an entity as they are listed. -/
def parts (g : Graph) (e : Entity) : List String :=
  ((g.attributesOf e.index).filter (·.type != .reference)).map explicitPart ++
    (g.derivedOf e.index).map derivedPart

/-- The line of an entity with its attributes. -/
def line (g : Graph) (e : Entity) : String :=
  let listed := parts g e
  s!"- {e.name}: " ++
    if listed.isEmpty then "(no attributes)" else String.intercalate ", " listed

/-- A summary of a graph, one line per entity. -/
def summary (g : Graph) : String :=
  String.intercalate "\n" (g.entities.map (line g))

/-- Who speaks in a chat. -/
inductive Role where
  | system
  | user
  deriving DecidableEq, Repr

/-- The word for a role. -/
def Role.name : Role → String
  | .system => "system"
  | .user => "user"

/-- A message of a chat. -/
structure Message where
  role : Role
  content : String
  deriving DecidableEq, Repr

/-- What a chat model is told to have a question answered: its task, and the question. -/
def messages (g : Graph) (question : String) : Except Prompt.FillError (List Message) := do
  let task ← Prompt.render Prompt.task [("MODEL", .text (summary g))]
  let asked ← Prompt.render Prompt.question [("QUESTION", .text question)]
  return [{ role := .system, content := task }, { role := .user, content := asked }]

end FactModel.Reply
