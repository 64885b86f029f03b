import FactModel.Artifact.Blocks
import FactModel.Artifact.Checks
import FactModel.Artifact.Description
import FactModel.Artifact.Failure
import FactModel.Artifact.Matrix
import FactModel.Artifact.Questions
import FactModel.Artifact.Registry
import FactModel.Artifact.Rollups
import FactModel.Artifact.Run
import FactModel.Artifact.Sentences
import FactModel.Artifact.Statements
import FactModel.Bullet.Classify
import FactModel.Bullet.Context
import FactModel.Bullet.Mark
import FactModel.Bullet.Object
import FactModel.Bullet.Reading
import FactModel.CallFailure
import FactModel.Chat
import FactModel.CommandLine.Command
import FactModel.CommandLine.Folder
import FactModel.CommandLine.Run
import FactModel.CommandLine.Words
import FactModel.Diagnostic
import FactModel.DiagnosticRecord
import FactModel.Document.Basic
import FactModel.Document.Line
import FactModel.Document.Outcome
import FactModel.FailureReport
import FactModel.Graph.Basic
import FactModel.Graph.Build
import FactModel.Graph.Derivation
import FactModel.Graph.Draft
import FactModel.Graph.Log
import FactModel.Graph.Lookup
import FactModel.Graph.Path
import FactModel.Graph.Subtype
import FactModel.Issue
import FactModel.Json.Basic
import FactModel.Json.Checked
import FactModel.Json.Extract
import FactModel.Json.Lenient
import FactModel.Json.NumberText
import FactModel.Json.Reader
import FactModel.Json.Writer
import FactModel.Keyed
import FactModel.Log
import FactModel.Main
import FactModel.Name
import FactModel.Number.Count
import FactModel.Number.Shortest
import FactModel.Number.Styled
import FactModel.Prompt.Fill
import FactModel.Prompt.Layout
import FactModel.Prompt.NumberLayout
import FactModel.Prompt.Shipped
import FactModel.Prompt.Template
import FactModel.Prompt.Value
import FactModel.Proofs.Artifact.Checks
import FactModel.Proofs.Artifact.Completing
import FactModel.Proofs.Artifact.Counting
import FactModel.Proofs.Artifact.Generating
import FactModel.Proofs.Artifact.Questions
import FactModel.Proofs.Artifact.Rollups
import FactModel.Proofs.Attempts
import FactModel.Proofs.Bullet.Marks
import FactModel.Proofs.Bullet.Miscounts
import FactModel.Proofs.Bullet.Named
import FactModel.Proofs.Bullet.Names
import FactModel.Proofs.Bullet.Objects
import FactModel.Proofs.Bullet.Parts
import FactModel.Proofs.Bullet.Readings
import FactModel.Proofs.Bullet.Sentences
import FactModel.Proofs.Bullet.Subjects
import FactModel.Proofs.Bullet.Wording
import FactModel.Proofs.Derivation.Cycles
import FactModel.Proofs.Derivation.Dependence
import FactModel.Proofs.Derivation.Exposure
import FactModel.Proofs.Derivation.Naming
import FactModel.Proofs.Derivation.Offers
import FactModel.Proofs.Derivation.Order
import FactModel.Proofs.Derivation.Recursion
import FactModel.Proofs.Derivation.Settling
import FactModel.Proofs.Description.Items
import FactModel.Proofs.Description.Legible
import FactModel.Proofs.Description.Reading
import FactModel.Proofs.Description.Rereading
import FactModel.Proofs.Description.Retelling
import FactModel.Proofs.Description.Roundtrip
import FactModel.Proofs.Description.Telling
import FactModel.Proofs.Document.Covering
import FactModel.Proofs.Document.Describing
import FactModel.Proofs.Document.Fences
import FactModel.Proofs.Document.Lines
import FactModel.Proofs.Document.Outcomes
import FactModel.Proofs.Document.Places
import FactModel.Proofs.Document.Reading
import FactModel.Proofs.Graph.Arena
import FactModel.Proofs.Graph.Attaching
import FactModel.Proofs.Graph.Backing
import FactModel.Proofs.Graph.Checking
import FactModel.Proofs.Graph.Circular
import FactModel.Proofs.Graph.Commuting
import FactModel.Proofs.Graph.Compiling
import FactModel.Proofs.Graph.Conforming
import FactModel.Proofs.Graph.Declaring
import FactModel.Proofs.Graph.Distances
import FactModel.Proofs.Graph.Drafting
import FactModel.Proofs.Graph.Failing
import FactModel.Proofs.Graph.Frontiers
import FactModel.Proofs.Graph.Interchange
import FactModel.Proofs.Graph.Named
import FactModel.Proofs.Graph.Portions
import FactModel.Proofs.Graph.Rechecking
import FactModel.Proofs.Graph.Refusing
import FactModel.Proofs.Graph.Renumbering
import FactModel.Proofs.Graph.Reordering
import FactModel.Proofs.Graph.Ruling
import FactModel.Proofs.Graph.Soundness
import FactModel.Proofs.Graph.Stating
import FactModel.Proofs.Json.Calm
import FactModel.Proofs.Keyed
import FactModel.Proofs.Number.Counts
import FactModel.Proofs.Query.Keywords
import FactModel.Proofs.Query.Literals
import FactModel.Proofs.Query.Planning
import FactModel.Proofs.Schema.Backing
import FactModel.Proofs.Schema.Circles
import FactModel.Proofs.Schema.Columns
import FactModel.Proofs.Schema.Countdown
import FactModel.Proofs.Schema.Creatable
import FactModel.Proofs.Schema.Issues
import FactModel.Proofs.Schema.KeyNames
import FactModel.Proofs.Schema.Keys
import FactModel.Proofs.Schema.Obligation
import FactModel.Proofs.Schema.Ordering
import FactModel.Proofs.Schema.Origins
import FactModel.Proofs.Schema.Sequence
import FactModel.Proofs.Schema.Standing
import FactModel.Proofs.Schema.TableNames
import FactModel.Proofs.Text.Identifiers
import FactModel.Proofs.Text.Keys
import FactModel.Proofs.Text.Phrases
import FactModel.Proofs.Text.Plurals
import FactModel.Proofs.Text.Tidy
import FactModel.Proofs.View.Binding
import FactModel.Proofs.View.Housing
import FactModel.Proofs.View.Joins
import FactModel.Proofs.View.Lookup
import FactModel.Proofs.View.Meaning
import FactModel.Proofs.View.Rows
import FactModel.Proofs.View.Scoping
import FactModel.Query.Basic
import FactModel.Query.Build
import FactModel.Query.Intent
import FactModel.Query.Keyword
import FactModel.Query.Plan
import FactModel.Query.Reply
import FactModel.Retry
import FactModel.Schema.Basic
import FactModel.Schema.Edit
import FactModel.Schema.Mapping
import FactModel.SemanticType
import FactModel.Settings
import FactModel.Sql.Definition
import FactModel.Sql.Dialect
import FactModel.Sql.Expression
import FactModel.Sql.Literal
import FactModel.Sql.Query
import FactModel.Sql.References
import FactModel.Sql.Signature
import FactModel.Sql.Statement
import FactModel.Sql.Token
import FactModel.Sql.Word
import FactModel.Statement
import FactModel.Text.Blank
import FactModel.Text.Case
import FactModel.Text.CaseRanges
import FactModel.Text.PathName
import FactModel.Text.Phrase
import FactModel.Text.Printed
import FactModel.Text.Quoted
import FactModel.Text.Table
import FactModel.Text.UnprintableRanges
import FactModel.Text.Utf8
import FactModel.Text.Word
import FactModel.Text.WordRanges
import FactModel.View.Basic
import FactModel.View.Layout
