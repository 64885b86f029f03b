import FactModel.Bullet.Context
import FactModel.Bullet.Mark
import FactModel.Bullet.Object
import FactModel.Bullet.Reading
import FactModel.Number.Count
import FactModel.Statement

/-!
# From bullets to facts

A reading is resolved to a fact in the context of its bullet.  Resolving may decline, as for
`Person is a human being` where the base is no entity, and the patterns behind are tried then.  It
fails for good only on a count in digits that denote no number.
-/

namespace FactModel.Bullet

open FactModel.Text

/-- The fact with a given subject and assertion. -/
def Context.fact (ctx : Context) (subject : List Char) (assertion : Assertion) : Fact :=
  { line := ctx.line
    text := ctx.text
    owner := ctx.owner
    entity := ctx.subject (String.ofList subject)
    assertion }

/-- What follows the first of the phrases that stands at the front and is not all there is. -/
def afterPhrase (phrases : List String) (cs : List Char) : Option (List Char) :=
  (stripAny phrases cs).find? (· ≠ [])

/-- The condition of a subtype: at least so many of an entity, one or more, or just one of an
entity or attribute.  Declined are conditions of any other form and unknown counts. -/
def Context.condition (ctx : Context) (written : List Char) :
    Except CountError (Option Condition) :=
  match (stripPhrase "at least ".toList written).bind Reading.countAndNoun with
  | some (count, target) => do
    let n ← Count.read count
    return n.map (.related (ctx.pluralEntity (String.ofList target)))
  | none =>
    match afterPhrase ["one or more ", "some ", "any "] written with
    | some target => .ok (some (.related (ctx.pluralEntity (String.ofList target)) 1))
    | none =>
      match afterPhrase ["a ", "an "] written with
      | some target =>
        let name := Name.display (String.ofList target)
        if ctx.isEntity name then .ok (some (.related (ctx.entityName name) 1))
        else .ok (some (.hasAttribute name))
      | none => .ok none

/-- The fact that an attribute phrase states of its subject.  The name of an entity makes it a
relationship when the name is in bold, or declared and followed by neither type nor example. -/
def Context.hasObject (ctx : Context) (subject : List Char) (object : Object) : Option Fact :=
  if object.name = "" then none
  else if ctx.bold.contains (Name.key object.name) ||
      (ctx.isEntity object.name && object.declaredType.isNone && object.sample.isNone) then
    some (ctx.fact subject (.relatedTo (ctx.entityName object.name) .manyToOne))
  else
    some (ctx.fact subject (.hasAttribute object.name object.declaredType object.sample false))

/-- Resolves a reading to a fact, or declines it. -/
def Context.resolve (ctx : Context) : Reading → Except CountError (Option Fact)
  | .identifiedBy subject written =>
    let object := Object.ofChars written
    if object.name = "" then .ok none
    else
      .ok (some (ctx.fact subject
        (.hasAttribute object.name object.declaredType object.sample true)))
  | .isA subject base none =>
    let name := Name.display (String.ofList base)
    if ctx.isEntity name then .ok (some (ctx.fact subject (.isA (ctx.entityName name) none)))
    else .ok none
  | .isA subject base (some written) => do
    let name := Name.display (String.ofList base)
    let condition ← ctx.condition (squeeze written)
    return condition.map fun c => ctx.fact subject (.isA (ctx.entityName name) (some c))
  | .minCount subject none target =>
    .ok (some (ctx.fact subject (.obeys (.minCount (ctx.pluralEntity (String.ofList target)) 1))))
  | .minCount subject (some count) target => do
    let n ← Count.read count
    return n.map fun n =>
      ctx.fact subject (.obeys (.minCount (ctx.pluralEntity (String.ofList target)) n))
  | .inPast subject attr =>
    .ok (some (ctx.fact subject (.obeys (.inPast (Name.display (String.ofList attr))))))
  | .like subject attr pattern =>
    .ok (some (ctx.fact subject
      (.obeys (.like (Name.display (String.ofList attr)) (String.ofList pattern)))))
  | .notNull subject attr =>
    .ok (some (ctx.fact subject (.obeys (.notNull (Name.display (String.ofList attr))))))
  | .hasMany subject target =>
    .ok (some (ctx.fact subject (.relatedTo (ctx.pluralEntity (String.ofList target)) .oneToMany)))
  | .hasExactlyOne subject target =>
    .ok (some (ctx.fact subject (.relatedTo (ctx.entityName (String.ofList target)) .oneToOne)))
  | .has subject written => .ok (ctx.hasObject subject (Object.ofChars written))

/-- The first fact that one of the patterns yields. -/
def Context.firstFact (ctx : Context) (body : List Char) :
    List (List Char → Option Reading) → Except CountError (Option Fact)
  | [] => .ok none
  | pattern :: patterns =>
    match pattern body with
    | none => ctx.firstFact body patterns
    | some reading =>
      match ctx.resolve reading with
      | .ok none => ctx.firstFact body patterns
      | answer => answer

/-- The fact that a bullet states, or nothing when no pattern accepts it. -/
def Context.classify (ctx : Context) : Except CountError (Option Fact) :=
  ctx.firstFact ctx.text.toList Reading.patterns

/-- The context of a bullet body, its marks removed. -/
def contextOf (line : Nat) (owner : String) (known : List String) (body : List Char) : Context :=
  let bullet := clean body
  { line, text := bullet.text, owner, known, bold := bullet.bold }

end FactModel.Bullet
