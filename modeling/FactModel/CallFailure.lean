import FactModel.Text.Case
import FactModel.Text.Quoted

/-!
# Failures of called functions

A function that the program calls but does not own, such as a chat request or a generator that a
user registered, may fail in a few kinds of ways.
-/

namespace FactModel

open FactModel.Text

/-- The kinds of failure that are told apart. -/
inductive FailureKind where
  | timeout
  | value
  | runtime
  | key
  /-- A response with a status that tells of failure. -/
  | status
  deriving DecidableEq, Repr

namespace FailureKind

/-- The name of a kind in reports. -/
def name : FailureKind → String
  | .timeout => "TimeoutError"
  | .value => "ValueError"
  | .runtime => "RuntimeError"
  | .key => "KeyError"
  | .status => "StatusError"

/-- All kinds. -/
def all : List FailureKind :=
  [.timeout, .value, .runtime, .key, .status]

/-- The kind of a given name. -/
def ofName? (text : String) : Option FailureKind :=
  all.find? (·.name == text)

end FailureKind

/-- A failure of a called function. -/
structure CallFailure where
  kind : FailureKind
  text : String
  status : Option Int
  deriving DecidableEq, Repr

namespace CallFailure

/-- The wording of a failure.  A key that was not found is shown as a value. -/
def message (f : CallFailure) : String :=
  match f.kind with
  | .key => Text.quote f.text
  | _ => f.text

/-- The statuses of failures that may pass: a slow request, too many of them, a busy server. -/
def passingStatuses : List Int :=
  [408, 429, 503, 504]

/-- Whether a phrase occurs in a text. -/
def occursIn (phrase : List Char) : List Char → Bool
  | [] => phrase.isEmpty
  | c :: cs => phrase.isPrefixOf (c :: cs) || occursIn phrase cs

/-- Whether a failure may pass by itself, so that trying again makes sense. -/
def isTransient (f : CallFailure) : Bool :=
  let low := lower f.message.toList
  occursIn "timeout".toList low || occursIn "timed out".toList low ||
    f.status.any passingStatuses.contains

end CallFailure

end FactModel
