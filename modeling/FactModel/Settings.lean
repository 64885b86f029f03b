import FactModel.Json.Lenient
import FactModel.Text.Case
import FactModel.Text.PathName

/-!
# Settings

What a user may set: the usual dialect, how many artifacts are made at a time and where they go, the
chat model that resolves questions, and the log.
-/

namespace FactModel

open FactModel.Text

/-- The settings of the program. -/
structure Settings where
  dialect : String
  workers : Int
  outputDir : PathName
  apiKey : Option String
  /-- The model of the public service. -/
  serviceModel : Option String
  /-- The address of a service of one's own. -/
  url : Option String
  /-- The model of a service of one's own. -/
  ownModel : Option String
  temperature : Float
  /-- The seconds a chat request may take. -/
  timeout : Float
  /-- The most attempts at a chat request. -/
  attempts : Int
  /-- The seconds to wait before the second attempt. -/
  retryDelay : Float
  logLevel : String
  logFile : Option PathName
  deriving Repr

namespace Settings

/-- A name as settings keep it: without blanks around it and in lower case. -/
def plainName (name : String) : String :=
  String.ofList (lower (trim name.toList))

/-- A name of something. -/
def checkName (j : Json) : Checked String :=
  plainName <$> j.checkText

/-- A path. -/
def checkPath : Json → Checked PathName
  | .text s => .fits (.ofString s)
  | _ => .defect .notPath

/-- A path, or nothing. -/
def checkPathOrNull : Json → Checked (Option PathName)
  | .null => .fits none
  | j => some <$> checkPath j

/-- A number of at least one. -/
def checkPositive (j : Json) : Checked Int :=
  j.checkInteger.passing (1 ≤ ·) .belowLeast

/-- A length of time. -/
def checkDuration (j : Json) : Checked Float :=
  j.checkNumber.passing (0.0 < ·) .notAbove

/-- The settings of a user who has set nothing. -/
def usual : Settings :=
  { dialect := "postgres", workers := 4, outputDir := .ofString "output", apiKey := none,
    serviceModel := none, url := none, ownModel := none, temperature := 0.0, timeout := 60.0,
    attempts := 3, retryDelay := 2.0, logLevel := "INFO", logFile := none }

/-- A record with the names of its members in lower case.  Of members that come to have one name the
one that is written so counts, or else the last. -/
def lowerNames : Json → Json
  | .object members =>
    .object (Keyed.ofList ((members.map fun (name, value) =>
      (String.ofList (lower name.toList), value)) ++ members))
  | j => j

/-- Reads settings from a record whose names may be in any case.  What is not set has its usual
value. -/
def ofJson (record : Json) : Checked Settings :=
  let j := lowerNames record
  Settings.mk <$> j.checkFieldOr "default_dialect" usual.dialect checkName
    <*> j.checkFieldOr "max_workers" usual.workers checkPositive
    <*> j.checkFieldOr "output_dir" usual.outputDir checkPath
    <*> j.checkFieldOr "openai_api_key" usual.apiKey Json.checkTextOrNull
    <*> j.checkFieldOr "model_name" usual.serviceModel Json.checkTextOrNull
    <*> j.checkFieldOr "llm_url" usual.url Json.checkTextOrNull
    <*> j.checkFieldOr "model" usual.ownModel Json.checkTextOrNull
    <*> j.checkFieldOr "temperature" usual.temperature Json.checkNumber
    <*> j.checkFieldOr "llm_timeout" usual.timeout checkDuration
    <*> j.checkFieldOr "llm_max_retries" usual.attempts checkPositive
    <*> j.checkFieldOr "llm_retry_delay" usual.retryDelay Json.checkNumber
    <*> j.checkFieldOr "log_level" usual.logLevel checkName
    <*> j.checkFieldOr "log_file" usual.logFile checkPathOrNull

end Settings

end FactModel
