import FactModel.Diagnostic
import FactModel.Json.Lenient

/-!
# Diagnostics given as records

A diagnostic as a user may write one down: a code, a message and perhaps a line.
-/

namespace FactModel

/-- A diagnostic that a user wrote down. -/
structure DiagnosticRecord where
  code : DiagnosticCode
  message : String
  line : Option Int
  deriving DecidableEq, Repr

namespace DiagnosticRecord

/-- Reads a diagnostic from a record.  Its further values may be any object. -/
def ofJson (j : Json) : Checked DiagnosticRecord :=
  (fun code message line _ => { code, message, line }) <$>
    j.checkField "code" (Json.checkChoice DiagnosticCode.ofName?)
      <*> j.checkField "message" Json.checkText
      <*> j.checkFieldOr "line" none Json.checkIntegerOrNull
      <*> j.checkFieldOr "details" () Json.checkObject

/-- A diagnostic in one line. -/
def report (d : DiagnosticRecord) : String :=
  reportLine d.code d.line d.message

end DiagnosticRecord

end FactModel
