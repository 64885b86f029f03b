import FactModel.SemanticType

/-!
# Diagnostics

Conditions that are reported without stopping the work: oddities of a model text, found while it is
read and while its graph is built.  A diagnostic keeps its cause; its code, its wording and the
named values that go with it are functions of the cause.
-/

namespace FactModel

/-- A named value that accompanies a diagnostic. -/
inductive Detail where
  | text (value : String)
  | number (value : Nat)
  | numbers (values : List Nat)
  deriving DecidableEq, Repr

/-- The kinds of conditions that are reported. -/
inductive DiagnosticCode where
  | parseWarning
  | missingDeclaration
  | duplicateDeclaration
  | duplicateAttribute
  | shadowedDerivedAttribute
  | unknownType
  | constraintTypeMismatch
  | skippedJoin
  | unsourcedDerivedColumn
  | derivedColumnClash
  deriving DecidableEq, Repr

namespace DiagnosticCode

/-- The name of a code in reports. -/
def name : DiagnosticCode → String
  | .parseWarning => "ParseWarning"
  | .missingDeclaration => "MissingDeclaration"
  | .duplicateDeclaration => "DuplicateDeclaration"
  | .duplicateAttribute => "DuplicateAttribute"
  | .shadowedDerivedAttribute => "ShadowedDerivedAttribute"
  | .unknownType => "UnknownType"
  | .constraintTypeMismatch => "ConstraintTypeMismatch"
  | .skippedJoin => "SkippedJoin"
  | .unsourcedDerivedColumn => "UnsourcedDerivedColumn"
  | .derivedColumnClash => "DerivedColumnClash"

/-- All codes. -/
def all : List DiagnosticCode :=
  [.parseWarning, .missingDeclaration, .duplicateDeclaration, .duplicateAttribute,
   .shadowedDerivedAttribute, .unknownType, .constraintTypeMismatch, .skippedJoin,
   .unsourcedDerivedColumn, .derivedColumnClash]

/-- The code of a given name. -/
def ofName? (text : String) : Option DiagnosticCode :=
  all.find? (·.name == text)

end DiagnosticCode

/-- A report in one line: the code, the line of the model when there is one, and the message. -/
def reportLine (code : DiagnosticCode) (line : Option Int) (message : String) : String :=
  let place := (line.map fun n => s!"line {n}: ").getD ""
  s!"[{code.name}] {place}{message}"

/-- What was found in a model text. -/
inductive Finding where
  /-- A bullet that no pattern accepts. -/
  | unrecognized (owner text : String)
  /-- A fact about a declared entity that stands outside a bullet. -/
  | unbulleted (owner text : String)
  /-- An entity that is referred to but has no header. -/
  | undeclared (entity : String)
  /-- A second header for an entity. -/
  | declaredAgain (entity : String)
  /-- A relationship stated twice. -/
  | relatedAgain (source target : String)
  /-- An entity declared a subtype of itself. -/
  | ownSubtype (entity : String)
  /-- An entity that gets a second identifier. -/
  | secondIdentifier (entity current attr : String)
  /-- An attribute stated twice; `existing` is its first spelling. -/
  | attributeAgain (entity existing attr : String)
  /-- A relationship to an entity whose name the source already has as an attribute. -/
  | referenceTaken (source target : String)
  /-- A declared type that is no known word. -/
  | unknownType (attr declaredType : String)
  /-- An attribute that must be in the past and is no date. -/
  | notADate (entity attr : String) (type : SemanticType)
  /-- A derived attribute whose name is taken. -/
  | shadowed (entity attr : String)
  deriving DecidableEq, Repr

namespace Finding

/-- The code a finding is reported under. -/
def code : Finding → DiagnosticCode
  | .unrecognized .. | .unbulleted .. => .parseWarning
  | .undeclared .. => .missingDeclaration
  | .declaredAgain .. | .relatedAgain .. | .ownSubtype .. => .duplicateDeclaration
  | .secondIdentifier .. | .attributeAgain .. | .referenceTaken .. => .duplicateAttribute
  | .unknownType .. => .unknownType
  | .notADate .. => .constraintTypeMismatch
  | .shadowed .. => .shadowedDerivedAttribute

/-- The wording of a finding. -/
def message : Finding → String
  | .unrecognized owner text => s!"Unrecognized fact under '{owner}': {text}"
  | .unbulleted owner text => s!"Fact under '{owner}' is missing its bullet: {text}"
  | .undeclared entity => s!"'{entity}' is referenced but never declared; using a stub entity"
  | .declaredAgain entity => s!"'{entity}' is declared more than once; declarations merged"
  | .relatedAgain source target => s!"Relationship '{source}' -> '{target}' is already declared"
  | .ownSubtype entity => s!"'{entity}' is declared a subtype of itself; ignored"
  | .secondIdentifier entity current attr =>
    s!"'{entity}' is already identified by '{current}'; " ++
      s!"'{attr}' is kept as a plain attribute"
  | .attributeAgain entity existing _ => s!"'{entity}' already has '{existing}'"
  | .referenceTaken source target =>
    s!"'{source}' already has an attribute named '{target}'; " ++
      "the relationship is kept without a reference attribute"
  | .unknownType attr declaredType =>
    s!"Unknown type '{declaredType}' for '{attr}'; inferring from its name"
  | .notADate entity attr type =>
    s!"'{attr}' of '{entity}' is {type.name}, not Date, but must be in the past"
  | .shadowed entity attr =>
    s!"'{entity}' already has an attribute named '{attr}'; the derived one is not exposed"

/-- The named values of a finding. -/
def details : Finding → List (String × Detail)
  | .unrecognized owner text | .unbulleted owner text =>
    [("owner", .text owner), ("text", .text text)]
  | .undeclared entity | .declaredAgain entity | .ownSubtype entity => [("entity", .text entity)]
  | .relatedAgain source target => [("source", .text source), ("target", .text target)]
  | .secondIdentifier entity _ attr | .attributeAgain entity _ attr
  | .referenceTaken entity attr | .notADate entity attr _ | .shadowed entity attr =>
    [("entity", .text entity), ("attribute", .text attr)]
  | .unknownType attr declaredType =>
    [("attribute", .text attr), ("declared_type", .text declaredType)]

end Finding

/-- A finding and the line of the model text that gave rise to it. -/
structure Diagnostic where
  finding : Finding
  line : Nat
  deriving DecidableEq, Repr

/-- A diagnostic in one line. -/
def Diagnostic.report (d : Diagnostic) : String :=
  reportLine d.finding.code (some d.line) d.finding.message

/-- Names tell codes apart. -/
theorem DiagnosticCode.ofName?_name (code : DiagnosticCode) :
    DiagnosticCode.ofName? code.name = some code := by
  cases code <;> decide

end FactModel
