import FactModel.Name
import FactModel.Text.Phrase

/-!
# The context of a bullet

Names in a bullet are resolved against the entities that the model declares, the entity whose
header the bullet stands under, and the names that the bullet itself marks as entities.
-/

namespace FactModel.Bullet

open FactModel.Text

/-- All that is needed to read one bullet. -/
structure Context where
  line : Nat
  /-- The bullet without its marks. -/
  text : String
  /-- The entity whose header the bullet stands under. -/
  owner : String
  /-- The declared entities, in order of declaration. -/
  known : List String
  /-- The keys of the names that the bullet marks in bold. -/
  bold : List String

namespace Context

/-- Whether a name is that of an entity: it is marked in bold or declared. -/
def isEntity (ctx : Context) (name : String) : Bool :=
  ctx.bold.contains (Name.key name) || ctx.known.any (Name.key · == Name.key name)

/-- The declared spelling of an entity, or the name itself when it is not declared. -/
def entityName (ctx : Context) (name : String) : String :=
  (ctx.known.find? (Name.key · == Name.key name)).getD (Name.display name)

/-- The words that stand for the owner of a bullet. -/
def pronouns : List String := ["it", "they", "this entity"]

/-- The words that may stand before the entity a bullet is about. -/
def leadingArticles : List String := ["a ", "an ", "each ", "every ", "the "]

/-- The entity that a bullet is about. -/
def subject (ctx : Context) (written : String) : String :=
  let name := Name.display written
  if pronouns.contains (Name.key name) then ctx.owner
  else ctx.entityName (String.ofList ((stripOptional leadingArticles name.toList).headD []))

/-- The entity meant by a plural. -/
def pluralEntity (ctx : Context) (written : String) : String :=
  ctx.entityName (Name.singular ctx.known written)

end Context

end FactModel.Bullet
