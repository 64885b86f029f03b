import FactModel.CallFailure
import FactModel.Query.Basic
import FactModel.Schema.Basic
import FactModel.Sql.Dialect

/-!
# Why an artifact cannot be made
-/

namespace FactModel

/-- Why an artifact cannot be made. -/
inductive ArtifactFailure where
  /-- Tables refer to each other in a circle, or depend on such a circle. -/
  | circular (tables : List String)
  | missingType (missing : MissingType)
  | lookup (missing : Missing)
  /-- The attribute of a rule has no column. -/
  | noColumn (rule : String)
  /-- No foreign key links the entities of a rule. -/
  | noForeignKey (rule : String)
  /-- A table has no primary key. -/
  | noPrimaryKey
  | ungrounded (cause : Ungrounded)
  /-- A generator of the user's own failed. -/
  | called (failure : CallFailure)
  deriving DecidableEq, Repr

namespace ArtifactFailure

/-- The name of a semantic type where it is shown as a constant. -/
def constant : SemanticType → String
  | .string => "SemanticType.STRING"
  | .date => "SemanticType.DATE"
  | .number => "SemanticType.NUMBER"
  | .reference => "SemanticType.REFERENCE"

/-- The wording of a failure. -/
def message : ArtifactFailure → String
  | .circular tables =>
    s!"Circular foreign keys between tables: " ++ String.intercalate ", " tables
  | .missingType missing => constant missing.type
  | .lookup missing => missing.message
  | .noColumn rule => s!"No column backs the rule '{rule}'"
  | .noForeignKey rule => s!"No foreign key backs the rule '{rule}'"
  | .noPrimaryKey => "list index out of range"
  | .ungrounded cause => cause.message
  | .called failure => failure.message

/-- The wording of a failure inside another message, where what was looked up in vain is shown as
a value. -/
def causeMessage : ArtifactFailure → String
  | .missingType missing => s!"<{constant missing.type}: {Text.quote missing.type.name}>"
  | .lookup (.table entity) => Text.quote (Missing.table entity).message
  | failure => failure.message

end ArtifactFailure

end FactModel
