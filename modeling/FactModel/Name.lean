import FactModel.Text.Blank
import FactModel.Text.Case

/-!
# Names

Display names of entities and attributes as people write them: the key that identifies a name
whatever its case and spacing, the identifier that stands for it in SQL, its plural and singular
forms and its indefinite article.
-/

namespace FactModel.Name

open FactModel.Text

/-- A name with single spaces between its words and none around it. -/
def display (name : String) : String :=
  String.ofList (squeeze name.toList)

/-- The key of a name.  Two spellings name the same thing exactly when their keys are equal. -/
def key (name : String) : String :=
  String.ofList (fold (squeeze name.toList))

/-! ## Identifiers -/

/-- The characters an identifier is made of: ASCII letters and digits. -/
def isIdentifierChar (c : Char) : Bool :=
  c.isAlphanum

/-- Whether a new identifier word begins between two letters, as in `OrderLine`. -/
def isHump (before after : Char) : Bool :=
  (before.isLower || before.isDigit) && after.isUpper

/-- A text with an underscore wherever a new identifier word begins between two letters. -/
def cutHumps : List Char → List Char
  | [] => []
  | c :: cs => if cs.head?.any (isHump c) then c :: '_' :: cutHumps cs else c :: cutHumps cs

/-- A text with one underscore in place of each run of characters that no identifier is made of. -/
def replaceRuns : List Char → List Char
  | [] => []
  | c :: cs =>
    if isIdentifierChar c then c :: replaceRuns cs
    else if cs.head?.all isIdentifierChar then '_' :: replaceRuns cs
    else replaceRuns cs

/-- The SQL identifier of a name: `Order Date` and `OrderDate` both become `order_date`.  There are
no underscores around it, but for one in front of a leading digit. -/
@[irreducible]
def identifier (name : String) : String :=
  let joined := (trimBoth (· == '_') (replaceRuns (cutHumps (squeeze name.toList)))).map Char.toLower
  String.ofList (if joined.head?.any Char.isDigit then '_' :: joined else joined)

/-! ## Plural and singular -/

/-- Whether a text ends in one of the endings. -/
def endsInAny (endings : List String) (cs : List Char) : Bool :=
  endings.any fun ending => ending.toList.isSuffixOf cs

/-- Whether a character is a lower-case vowel letter. -/
def isVowel (c : Char) : Bool :=
  "aeiou".toList.contains c

/-- A name without its last `n` characters and with an ending put in their place. -/
def replaceEnd (name : List Char) (n : Nat) (ending : String) : String :=
  String.ofList (name.take (name.length - n) ++ ending.toList)

/-- The plural of a name, formed on its last word. -/
def plural (name : String) : String :=
  let cs := name.toList
  let low := lower cs
  if cs.isEmpty then name
  else if endsInAny ["y"] low && 1 < cs.length && !low.dropLast.getLast?.any isVowel then
    replaceEnd cs 1 "ies"
  else if endsInAny ["s", "x", "z", "ch", "sh"] low then replaceEnd cs 0 "es"
  else replaceEnd cs 0 "s"

/-- The names of which a name may be the plural, the name itself first. -/
def singularCandidates (name : String) : List String :=
  let cs := name.toList
  let low := lower cs
  [name] ++
    (if endsInAny ["ies"] low && 3 < cs.length then [replaceEnd cs 3 "y"] else []) ++
    (if endsInAny ["es"] low && 2 < cs.length then [replaceEnd cs 2 ""] else []) ++
    (if endsInAny ["s"] low && !endsInAny ["ss"] low && 1 < cs.length then [replaceEnd cs 1 ""]
      else [])

/-- The singular of a name that no known name settles. -/
def guessSingular (name : String) : String :=
  let cs := name.toList
  let low := lower cs
  if endsInAny ["ies"] low && 3 < cs.length then replaceEnd cs 3 "y"
  else if endsInAny ["sses", "xes", "zes", "ches", "shes"] low then replaceEnd cs 2 ""
  else if endsInAny ["s"] low && !endsInAny ["ss"] low then replaceEnd cs 1 ""
  else name

/-- The known name that a candidate spells, the last one when several do. -/
def lastKnown? (known : List String) (candidate : String) : Option String :=
  known.reverse.find? fun name => key name == key candidate

/-- The singular of a name: the known name that a singular candidate spells, or else a guess. -/
def singular (known : List String) (name : String) : String :=
  let name := display name
  ((singularCandidates name).findSome? (lastKnown? known)).getD (guessSingular name)

/-! ## Articles -/

/-- The indefinite article before a name, by its first letter.  The empty name takes `an`. -/
def article (name : String) : String :=
  match name.toList with
  | [] => "an"
  | c :: _ =>
    match lower [c] with
    | [low] => if isVowel low then "an" else "a"
    | _ => "a"

/-- A name after its indefinite article. -/
def withArticle (name : String) : String :=
  s!"{article name} {name}"

/-- A name after its indefinite article at the beginning of a sentence. -/
def withCapitalArticle (name : String) : String :=
  (if article name = "an" then "An " else "A ") ++ name

end FactModel.Name
