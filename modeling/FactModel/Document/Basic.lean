import FactModel.Diagnostic
import FactModel.Document.Outcome

/-!
# Documents

A document is what has been read from a model text: its statements in order, the bullets and lines
that were not understood, the diagnostics about them, and the declared entities.
-/

namespace FactModel

/-- A bullet, or a fact outside a bullet, that was not understood. -/
structure Unparsed where
  line : Nat
  text : String
  owner : String
  deriving DecidableEq, Repr

/-- What has been read from a model text. -/
structure Document where
  statements : List Statement
  unparsed : List Unparsed
  diagnostics : List Diagnostic
  entityNames : List String
  deriving DecidableEq, Repr

namespace Document

/-- A description made of its lines, empty ones left out. -/
def joinDescription (parts : List String) : String :=
  String.intercalate " " (parts.filter (· ≠ ""))

/-- Whether an outcome is the header of an entity. -/
def isDeclared : Nat × Outcome → Bool
  | (_, .declared ..) => true
  | _ => false

/-- The description line that an outcome contributes. -/
def descriptionLine? : Nat × Outcome → Option String
  | (_, .described text) => some text
  | _ => none

/-- The statements among the outcomes.  A declaration takes in the description lines up to the
next header. -/
def statementsOf : List (Nat × Outcome) → List Statement
  | [] => []
  | (line, .declared name description text) :: rest =>
    let more := (rest.takeWhile (!isDeclared ·)).filterMap descriptionLine?
    .declaration { line, text, name, description := joinDescription (description :: more) } ::
      statementsOf rest
  | (_, .stated fact) :: rest => .fact fact :: statementsOf rest
  | _ :: rest => statementsOf rest

/-- The entry that an outcome leaves among what was not understood. -/
def unparsed? : Nat × Outcome → Option Unparsed
  | (line, .unrecognized owner text) | (line, .unbulleted owner text) => some { line, text, owner }
  | _ => none

/-- The diagnostic that an outcome gives rise to. -/
def diagnostic? : Nat × Outcome → Option Diagnostic
  | (line, .unrecognized owner text) => some { finding := .unrecognized owner text, line }
  | (line, .unbulleted owner text) => some { finding := .unbulleted owner text, line }
  | _ => none

/-- The document that the outcomes of a text amount to. -/
def ofOutcomes (names : List String) (outcomes : List (Nat × Outcome)) : Document :=
  { statements := statementsOf outcomes
    unparsed := outcomes.filterMap unparsed?
    diagnostics := outcomes.filterMap diagnostic?
    entityNames := names }

/-- Reads a model text. -/
def parse (text : String) : Except ReadError Document :=
  let trace := Trace.ofText text
  match trace.failure with
  | some failure => .error failure
  | none => .ok (ofOutcomes (Line.scannedNames text) trace.outcomes)

/-- What was not understood and the diagnostics about it correspond one to one. -/
theorem length_unparsed_eq (names : List String) (outcomes : List (Nat × Outcome)) :
    (ofOutcomes names outcomes).unparsed.length =
      (ofOutcomes names outcomes).diagnostics.length := by
  simp only [ofOutcomes]
  induction outcomes with
  | nil => rfl
  | cons head rest ih =>
    obtain ⟨line, outcome⟩ := head
    cases outcome <;> simp only [List.filterMap_cons, unparsed?, diagnostic?, List.length_cons, ih]

end Document

end FactModel
