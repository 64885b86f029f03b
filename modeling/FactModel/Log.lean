/-!
# Log lines

What the parts of the program report about their work, besides their results.
-/

namespace FactModel

/-- How grave a log line is. -/
inductive LogLevel where
  | debug
  | info
  | warning
  | error
  | critical
  deriving DecidableEq, Repr

/-- The name of a level. -/
def LogLevel.name : LogLevel → String
  | .debug => "DEBUG"
  | .info => "INFO"
  | .warning => "WARNING"
  | .error => "ERROR"
  | .critical => "CRITICAL"

/-- The part of the program that a log line comes from. -/
inductive LogSource where
  | reader
  | builder
  | mapper
  | views
  | validation
  | tables
  | checks
  | runner
  | failures
  | retry
  deriving DecidableEq, Repr

/-- A log line. -/
structure LogLine where
  level : LogLevel
  source : LogSource
  message : String
  deriving DecidableEq, Repr

end FactModel
