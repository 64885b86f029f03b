import FactModel.Retry
import FactModel.Settings

/-!
# Chatting

A chat request goes to the model that the settings name and is tried again when it fails for a
passing reason.
-/

namespace FactModel

/-- Why a chat has no answer. -/
inductive ChatError where
  /-- There is no service to ask. -/
  | noService
  /-- There is no model to ask. -/
  | noModel
  | unanswered (error : RetryError)
  deriving DecidableEq, Repr

/-- A text that is not empty. -/
def Settings.given? (text : Option String) : Option String :=
  text.filter (· ≠ "")

/-- The model that chat requests go to: that of one's own service, if there is one, or else that of
the public service. -/
def Settings.model? (s : Settings) : Option String :=
  Settings.given? (if (Settings.given? s.url).isSome then s.ownModel else s.serviceModel)

/-- Whether there is a service to ask. -/
def Settings.hasService (s : Settings) : Bool :=
  (Settings.given? s.url).isSome || (Settings.given? s.apiKey).isSome

/-- How chat requests are tried again. -/
def Settings.retryPolicy (s : Settings) : RetryPolicy Float :=
  { attempts := s.attempts, delay := s.retryDelay, passing := [.timeout]
    pauseLimit := some RetryPolicy.floatPauses }

namespace Chat

/-- The name of chat requests in reports. -/
def title (model : String) : String :=
  s!"Chat call to {model}"

/-- The wording of a failure. -/
def message (s : Settings) : ChatError → String
  | .noService =>
    "No LLM API configured. Set OPENAI_API_KEY/MODEL_NAME or LLM_URL/MODEL in .env"
  | .noModel => "No model configured. Set MODEL_NAME (or MODEL with LLM_URL) in .env"
  | .unanswered error => error.message (title (s.model?.getD "")) s.retryPolicy

/-- A chat: how many requests were sent to which model, and the answer. -/
structure Exchange where
  model : String
  requests : Nat
  answer : Except ChatError String

/-- An exchange that fails before anything is sent. -/
def Exchange.failed (error : ChatError) : Exchange :=
  { model := "", requests := 0, answer := .error error }

/-- Has a chat, given what the requests would come to.  An answer without content is empty.  A
connection that stands already needs no service in the settings. -/
def send (s : Settings) (connected : Bool)
    (outcome : Nat → Except CallFailure (Option String)) : Exchange :=
  if !(connected || s.hasService) then .failed .noService
  else
    match s.model? with
    | none => .failed .noModel
    | some model =>
      let run := s.retryPolicy.run outcome
      { model, requests := run.calls
        answer := (run.result.map (·.getD "")).mapError .unanswered }

end Chat

end FactModel
