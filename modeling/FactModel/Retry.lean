import FactModel.CallFailure
import FactModel.Log
import FactModel.Number.Styled

/-!
# Trying again

A call that fails for a passing reason is tried again after a pause, and every pause is twice as
long as the one before.  What the calls would come to is given as a sequence, so a run of attempts
is a value: the calls and pauses in their order, and the result.

A pause is computed as the delay times a power of two.  When there is no such power among the
numbers that measure time, the run ends with an error of its own, although calls are left.  A pause
that is computed is also taken: waiting is left to the caller, and it is assumed to end.
-/

namespace FactModel

/-- How often and how long to try.  Lengths of time may be of any type that has sums. -/
structure RetryPolicy (τ : Type) where
  /-- The most calls. -/
  attempts : Int
  /-- The seconds before the second call. -/
  delay : τ
  /-- The kinds of failure that always allow another call. -/
  passing : List FailureKind
  /-- How many pauses can be computed, if there is a limit to them.  This is not set by anyone: it is
  what the numbers allow that measure time.  The limit is on powers of two that have to be such a
  number; a product that is too large to be a finite float is infinite, and a pause like any
  other. -/
  pauseLimit : Option Nat
  deriving DecidableEq, Repr

/-- The number of powers of two, from one on, that are floats: so many pauses can be computed from a
delay that is a float. -/
def RetryPolicy.floatPauses : Nat := 1024

/-- The largest whole number that becomes a finite float: the greater ones up to the next power of
two are rounded to it. -/
def RetryPolicy.largestWhole : Nat := 1 <<< 1024 - 1 <<< 970 - 1

/-- The number of pauses that can be computed from a delay that is a whole number.  It is doubled
exactly, and has to become a float only when it is written; zero always does. -/
def RetryPolicy.wholePauses (delay : Int) : Option Nat :=
  let fits := largestWhole / delay.natAbs
  if delay = 0 then none else some (if fits = 0 then 0 else fits.log2 + 1)

/-- Whether a failure allows another call. -/
def RetryPolicy.allows {τ : Type} (p : RetryPolicy τ) (f : CallFailure) : Bool :=
  p.passing.contains f.kind || f.isTransient

/-- The seconds to wait after a call, calls being counted from zero. -/
def RetryPolicy.pause {τ : Type} [Add τ] (p : RetryPolicy τ) : (call : Nat) → τ
  | 0 => p.delay
  | call + 1 => p.pause call + p.pause call

/-- Whether the seconds to wait after a call can be computed. -/
def RetryPolicy.canPause {τ : Type} (p : RetryPolicy τ) (call : Nat) : Bool :=
  p.pauseLimit.all (call < ·)

/-- What happens in a run of attempts. -/
inductive RetryEvent (τ : Type) where
  | call
  /-- A pause after a failure. -/
  | pause (after : CallFailure) (seconds : τ)
  deriving DecidableEq, Repr

/-- Why a run of attempts has no value. -/
inductive RetryError where
  /-- The last call failed. -/
  | failed (failure : CallFailure)
  /-- The policy allows no call at all. -/
  | noAttempt
  /-- The next pause cannot be computed. -/
  | tooLong
  deriving DecidableEq, Repr

/-- A run of attempts: what happened, and what it came to. -/
structure RetryRun (τ α : Type) where
  events : List (RetryEvent τ)
  result : Except RetryError α

namespace RetryRun

variable {τ α : Type}

/-- The number of calls. -/
def calls (run : RetryRun τ α) : Nat :=
  run.events.countP fun
    | .call => true
    | .pause .. => false

/-- The failures that were followed by a pause, and the seconds it took. -/
def pauses (run : RetryRun τ α) : List (CallFailure × τ) :=
  run.events.filterMap fun
    | .call => none
    | .pause failure seconds => some (failure, seconds)

end RetryRun

namespace RetryPolicy

variable {τ α : Type} [Add τ]

/-- The run with so many calls left, when so many were made. -/
def runFrom (p : RetryPolicy τ) (outcome : Nat → Except CallFailure α) :
    (left made : Nat) → RetryRun τ α
  | 0, _ => { events := [], result := .error .noAttempt }
  | left + 1, made =>
    match outcome made with
    | .ok value => { events := [.call], result := .ok value }
    | .error failure =>
      if p.allows failure ∧ left ≠ 0 then
        if p.canPause made then
          let rest := runFrom p outcome left (made + 1)
          { rest with events := .call :: .pause failure (p.pause made) :: rest.events }
        else { events := [.call], result := .error .tooLong }
      else { events := [.call], result := .error (.failed failure) }

/-- The run of attempts at a call whose outcomes are given. -/
def run (p : RetryPolicy τ) (outcome : Nat → Except CallFailure α) : RetryRun τ α :=
  p.runFrom outcome p.attempts.toNat 0

/-- Without attempts nothing happens. -/
theorem run_of_attempts_le {p : RetryPolicy τ} (none : p.attempts ≤ 0)
    (outcome : Nat → Except CallFailure α) :
    p.run outcome = { events := [], result := .error .noAttempt } := by
  have zero : p.attempts.toNat = 0 := by omega
  simp [run, zero, runFrom]

end RetryPolicy

/-- The wording of a failed run. -/
def RetryError.message {τ : Type} (name : String) (p : RetryPolicy τ) : RetryError → String
  | .failed failure => failure.message
  | .noAttempt => s!"{name} failed after {p.attempts} attempts"
  | .tooLong => "int too large to convert to float"

/-- The name that a failed run has in reports: that of its last failure, or of one of its own. -/
def RetryError.kindName : RetryError → String
  | .failed failure => failure.kind.name
  | .noAttempt => FailureKind.runtime.name
  | .tooLong => "OverflowError"

/-- The log line of a pause, calls being counted from zero. -/
def RetryPolicy.pauseLine (p : RetryPolicy Float) (name : String) (call : Nat)
    (failure : CallFailure) (seconds : Float) : LogLine :=
  let wait := Number.fixedText 1 seconds
  { level := .warning, source := .retry
    message := s!"{name} failed on attempt {call + 1}/{p.attempts}: {failure.message}. " ++
      s!"Retrying in {wait} seconds..." }

/-- The log lines of a run. -/
def RetryPolicy.log {α : Type} (p : RetryPolicy Float) (name : String)
    (run : RetryRun Float α) : List LogLine :=
  (run.pauses.zipIdx.map fun ((failure, seconds), call) =>
      p.pauseLine name call failure seconds) ++
    match run.result with
    | .error (.failed failure) =>
      [{ level := .error, source := .retry, message := s!"{name} failed: {failure.message}" }]
    | _ => []

end FactModel
