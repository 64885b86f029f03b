import FactModel.Graph.Basic
import FactModel.Query.Intent
import FactModel.Text.Phrase

/-!
# Resolving questions by keywords

A question is resolved by the entity and attribute names it mentions and by a few keywords.  The
longest mentioned entity name wins, in singular or plural; of an attribute list the longest name.
-/

namespace FactModel

open FactModel.Text

/-- Why a question is not resolved. -/
inductive ResolveError where
  /-- The question mentions no entity. -/
  | noEntity (text : String)
  /-- What the question asks about the entity is unclear. -/
  | unclear (entity question : String)
  /-- A reply to the question holds no JSON object. -/
  | notJson (report : String)
  /-- A reply to the question holds an object that is no intent. -/
  | notIntent (misfits : List Misfit)
  deriving DecidableEq, Repr

/-- The wording of a failure. -/
def ResolveError.message : ResolveError → String
  | .noEntity text => s!"No entity of the model is mentioned in: {text}"
  | .unclear entity question =>
    s!"Could not tell what the question asks about '{entity}': {question}"
  | .notJson report => s!"Resolver response is not JSON: {report}"
  | .notIntent _ => "Resolver response is not a valid intent"

namespace Keyword

/-- Phrases that ask for a number of rows. -/
def countPhrases : List String :=
  ["how many", "number of", "count"]

/-- Words that ask for a greatest value. -/
def greatestPhrases : List String :=
  ["latest", "most recent", "newest", "last", "maximum", "max", "highest", "largest", "biggest"]

/-- Words that ask for a least value. -/
def leastPhrases : List String :=
  ["earliest", "oldest", "first", "minimum", "min", "lowest", "smallest"]

/-- A value without blanks and punctuation behind it and without the quotes around it. -/
def cleanValue (value : List Char) : List Char :=
  let bare := trim (trimEnd (fun c => c = '?' ∨ c = '.' ∨ c = '!') (trim value))
  match bare with
  | first :: rest =>
    if (first = '\'' ∨ first = '"') ∧ rest.getLast? = some first then rest.dropLast else bare
  | [] => []

/-! ## The entity -/

/-- An entity name found in a question. -/
structure Mention where
  entity : Entity
  /-- The form of the name that was looked for. -/
  form : List Char
  /-- The name as the question writes it. -/
  written : List Char

/-- Looks for a form of an entity's name. -/
def mention? (text : List Char) (e : Entity) (form : String) : Option Mention :=
  (findWhole form.toList none text).map fun written => { entity := e, form := form.toList, written }

/-- All entity names in a question, entity by entity, the plural before the singular. -/
def mentions (g : Graph) (text : List Char) : List Mention :=
  g.entities.flatMap fun e =>
    [Name.plural e.name, e.name].filterMap (mention? text e)

/-- The mention of the longest form, the first one among equally long ones. -/
def longest? : List Mention → Option Mention
  | [] => none
  | m :: rest =>
    match longest? rest with
    | none => some m
    | some n => if m.form.length < n.form.length then some n else some m

/-! ## Attributes -/

/-- The names of the attributes of an entity that a question may mention, longest first and then
by name without regard to case. -/
def attributeNames (g : Graph) (entity : Nat) : List String :=
  let names := ((g.attributesOf entity).filter (·.type != .reference)).map (·.name) ++
    (g.derivedOf entity).map (·.name)
  let before (a b : String) : Bool :=
    b.length < a.length ||
      (b.length == a.length && !decide (fold b.toList < fold a.toList))
  names.mergeSort before

/-- The first of some attribute names that a question mentions, one name left out. -/
def attribute? (text : List Char) (names : List String) (left : Option String) : Option String :=
  names.find? fun name => some name != left && (findWhole name.toList none text).isSome

/-! ## The filter -/

/-- Words that introduce a filter. -/
def filterWords : List String :=
  ["with ", "where ", "whose ", "having ", "has ", "have "]

/-- Articles that may stand in front of the attribute of a filter. -/
def filterArticles : List String :=
  ["the ", "a ", "an "]

/-- Words that may stand between the attribute of a filter and its value. -/
def filterLinks : List String :=
  ["is ", "= ", "=", "equal to ", "equals ", "of "]

/-- The value of a filter on an attribute, when the filter stands at the front. -/
def filterAt (name : List Char) (cs : List Char) : Option (List Char) :=
  (stripAny filterWords cs).findSome? fun cs =>
    (stripOptional filterArticles cs).findSome? fun cs =>
      (stripPhrase (name ++ [' ']) cs).bind fun cs =>
        (stripOptional filterLinks cs).find? (· ≠ [])

/-- The value of the leftmost filter on an attribute. -/
def filterValue? (name : List Char) (before : Option Char) : List Char → Option (List Char)
  | [] => none
  | c :: cs =>
    let here := if boundary before (some c) then filterAt name (c :: cs) else none
    match here with
    | some value => some value
    | none => filterValue? name (some c) cs

/-- The first of some attributes that a question filters by, and the value. -/
def filter? (text : List Char) (names : List String) : Option (String × String) :=
  names.findSome? fun name =>
    (filterValue? name.toList none text).bind fun value =>
      let value := cleanValue value
      if value = [] then none else some (name, String.ofList value)

/-! ## The key of a row -/

/-- What may stand in front of a key. -/
def keyMarks : List String :=
  ["#", "id ", "number "]

/-- A key between two quotes. -/
def quotedKey (quote : Char) : List Char → Option (List Char)
  | c :: cs =>
    let body := cs.takeWhile (· ≠ quote)
    if c = quote ∧ body ≠ [] ∧ (cs.dropWhile (· ≠ quote)).head? = some quote then
      some (quote :: body ++ [quote])
    else none
  | [] => none

/-- A key at the front: between quotes, or a word with a digit in it. -/
def keyAt (cs : List Char) : Option (List Char) :=
  let word := cs.takeWhile (!isBlank ·)
  ((quotedKey '\'' cs).or (quotedKey '"' cs)).or (if word.any isDecimal then some word else none)

/-- The key behind an entity as the question writes it, when both stand at the front. -/
def keyBehind (written : List Char) (cs : List Char) : Option (List Char) :=
  (stripPhrase (written ++ [' ']) cs).bind fun cs => (stripOptional keyMarks cs).findSome? keyAt

/-- The leftmost key behind the entity. -/
def key? (written : List Char) (text : List Char) : Option String :=
  (search (keyBehind written) text).map fun (_, key) => String.ofList (cleanValue key)

/-- The intent of a question whose entity is known. -/
def intentOf (g : Graph) (text : List Char) (m : Mention) : Option Intent :=
  let names := attributeNames g m.entity.index
  let filter := filter? text names
  let attr := attribute? text names (filter.map (·.1))
  let plain (shape : Shape) := Intent.plain shape m.entity.name
  if mentionsAny countPhrases text then
    some { plain .count with filterAttr := filter.map (·.1), filterValue := filter.map (·.2) }
  else
    match filter with
    | some (name, value) =>
      some { plain .filter with attr, filterAttr := some name, filterValue := some value }
    | none =>
      if mentionsAny greatestPhrases text then some { plain .max with attr }
      else if mentionsAny leastPhrases text then some { plain .min with attr }
      else (key? m.written text).map fun key => { plain .lookup with attr, keyValue := some key }

/-- Resolves a question. -/
def resolve (g : Graph) (question : String) : Except ResolveError Intent :=
  let text := squeeze question.toList
  match longest? (mentions g text) with
  | none => .error (.noEntity (String.ofList text))
  | some m =>
    match intentOf g text m with
    | some intent => .ok intent
    | none => .error (.unclear m.entity.name question)

end Keyword

end FactModel
