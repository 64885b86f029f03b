import FactModel.Text.Phrase

/-!
# Readings of a bullet

A bullet is read by a list of patterns, tried in order.  A pattern cuts the bullet at its phrase,
with the shortest subject for which the rest works out, and yields a reading: the parts of the
bullet as written, not yet resolved to names.
-/

namespace FactModel.Bullet

open FactModel.Text

/-- The parts of a bullet as written. -/
inductive Reading where
  /-- `<subject> is identified by <object>` -/
  | identifiedBy (subject object : List Char)
  /-- `<subject> is a <base> [with <condition>]` -/
  | isA (subject base : List Char) (condition : Option (List Char))
  /-- `<subject> must have at least <count> <target>`, or `one or more` for the count -/
  | minCount (subject : List Char) (count : Option (List Char)) (target : List Char)
  /-- `<subject> must have a <attribute> in the past` -/
  | inPast (subject attr : List Char)
  /-- `<subject> must have a <attribute> like '<pattern>'` -/
  | like (subject attr pattern : List Char)
  /-- `<subject> must have a <attribute>` -/
  | notNull (subject attr : List Char)
  /-- `<subject> has many <target>` -/
  | hasMany (subject target : List Char)
  /-- `<subject> has exactly one <target>` -/
  | hasExactlyOne (subject target : List Char)
  /-- `<subject> has a <object>` -/
  | has (subject object : List Char)
  deriving DecidableEq, Repr

namespace Reading

/-- The nearest cut at one of the phrases that leaves something behind it. -/
def cutInTwo (phrases : List String) (body : List Char) : Option (List Char × List Char) :=
  (cuts phrases body).find? (·.2 ≠ [])

/-- Reads an identifying attribute. -/
def identifiedBy? (body : List Char) : Option Reading :=
  (cuts [" is identified by "] body).findSome? fun (subject, rest) =>
    ((stripOptional ["a ", "an ", "the ", "its ", "their "] rest).find? (· ≠ [])).map
      (.identifiedBy subject)

/-- A base and the condition behind it, if there is one. -/
def baseAndCondition (rest : List Char) : Option (List Char × Option (List Char)) :=
  match cutInTwo [" with ", " that has ", " who has ", " having "] rest with
  | some (base, condition) => some (base, some condition)
  | none => if rest = [] then none else some (rest, none)

/-- Reads a subtype. -/
def isA? (body : List Char) : Option Reading :=
  (cuts [" is a kind of ", " is a type of ", " is an ", " is a "] body).findSome?
    fun (subject, rest) =>
      (baseAndCondition rest).map fun (base, condition) => .isA subject base condition

/-- A count and its noun: a run of word characters, one space and something behind it. -/
def countAndNoun (rest : List Char) : Option (List Char × List Char) :=
  match rest.takeWhile isWord, rest.dropWhile isWord with
  | c :: count, ' ' :: d :: noun => some (c :: count, d :: noun)
  | _, _ => none

/-- Reads a least number of related rows. -/
def minCount? (body : List Char) : Option Reading :=
  (cuts [" must have "] body).findSome? fun (subject, rest) =>
    match (stripPhrase "at least ".toList rest).bind countAndNoun with
    | some (count, target) => some (.minCount subject (some count) target)
    | none =>
      ((stripPhrase "one or more ".toList rest).filter (· ≠ [])).map (.minCount subject none)

/-- The cuts behind which the attribute of a rule stands. -/
def ruleCuts (body : List Char) : List (List Char × List Char) :=
  cuts [" must have a ", " must have an ", " must have the "] body

/-- Reads a rule that a date lies in the past. -/
def inPast? (body : List Char) : Option Reading :=
  (ruleCuts body).findSome? fun (subject, rest) =>
    ((cuts [" in the past", " that is in the past", " before today"] rest).find?
      (·.2 = [])).map fun (attr, _) => .inPast subject attr

/-- Whether a character is a quote that may enclose a pattern. -/
def isPatternQuote (c : Char) : Bool :=
  c == '\'' || c == '"'

/-- A pattern between quotes, of either kind at either end, that holds no quotes itself. -/
def quotedPattern : List Char → Option (List Char)
  | [] => none
  | opening :: rest =>
    if isPatternQuote opening then
      match rest.dropWhile (!isPatternQuote ·) with
      | [_] => some (rest.takeWhile (!isPatternQuote ·))
      | _ => none
    else none

/-- Reads a rule that an attribute matches a pattern. -/
def like? (body : List Char) : Option Reading :=
  (ruleCuts body).findSome? fun (subject, rest) =>
    (cuts [" like ", " matching "] rest).findSome? fun (attr, tail) =>
      (quotedPattern tail).map (.like subject attr)

/-- Reads a rule that an attribute is never missing. -/
def notNull? (body : List Char) : Option Reading :=
  ((ruleCuts body).find? (·.2 ≠ [])).map fun (subject, attr) => .notNull subject attr

/-- Reads a relationship to many. -/
def hasMany? (body : List Char) : Option Reading :=
  (cutInTwo [" has one or more ", " has zero or more ", " has many ", " has several ",
    " has multiple "] body).map fun (subject, target) => .hasMany subject target

/-- Reads a relationship to exactly one. -/
def hasExactlyOne? (body : List Char) : Option Reading :=
  (cutInTwo [" has exactly one ", " has one and only one "] body).map
    fun (subject, target) => .hasExactlyOne subject target

/-- Reads an attribute or a relationship to one. -/
def has? (body : List Char) : Option Reading :=
  (cutInTwo [" has a ", " has an ", " has one "] body).map
    fun (subject, object) => .has subject object

/-- The patterns, in the order in which they are tried. -/
def patterns : List (List Char → Option Reading) :=
  [identifiedBy?, isA?, minCount?, inPast?, like?, notNull?, hasMany?, hasExactlyOne?, has?]

end Reading

end FactModel.Bullet
