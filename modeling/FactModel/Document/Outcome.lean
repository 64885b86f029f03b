import FactModel.Bullet.Classify
import FactModel.Document.Line

/-!
# What comes of each line

Every line of a model text has exactly one outcome.  It depends on the line itself, on the entity
whose header stands above it, on whether the lines directly below a header are still its
description, and on the names declared anywhere in the text.
-/

namespace FactModel

/-- What comes of a line. -/
inductive Outcome where
  /-- Blank lines, headings and fences contribute nothing. -/
  | skipped
  /-- A header declares an entity. -/
  | declared (name description text : String)
  /-- A bullet states a fact. -/
  | stated (fact : Fact)
  /-- A bullet is not recognised. -/
  | unrecognized (owner text : String)
  /-- A line extends the description above it. -/
  | described (text : String)
  /-- A line outside a bullet reads like a fact about a declared entity. -/
  | unbulleted (owner text : String)
  /-- Any other prose. -/
  | ignored
  deriving DecidableEq, Repr

/-- Why reading a model text stops. -/
inductive ReadError where
  /-- A bullet stands above the first header. -/
  | orphanBullet (line : Nat)
  /-- A count in digits denotes no number. -/
  | count (error : CountError)
  deriving DecidableEq, Repr

namespace Outcome

/-- What is known when a line is reached: the last header's entity, and whether the lines since
then belong to its description. -/
structure Place where
  owner : Option String
  describing : Bool
  deriving DecidableEq, Repr

/-- Where reading begins. -/
def Place.top : Place :=
  { owner := none, describing := false }

/-- The place behind a line. -/
def Place.after (place : Place) : Line → Place
  | .header name _ _ => { owner := some name, describing := true }
  | .bullet _ | .heading => { place with describing := false }
  | .fenced | .blank | .prose _ => place

/-- Whether a line outside a bullet would state a fact about a declared entity. -/
def readsLikeFact (known : List String) (owner : String) (line : Nat) (text : List Char) :
    Except CountError Bool := do
  let fact ← (Bullet.contextOf line owner known text).classify
  return fact.any fun f => known.any (Name.key · == Name.key f.entity)

/-- What comes of a bullet under a header. -/
def ofBullet (known : List String) (owner : String) (line : Nat) (body : List Char) :
    Except CountError Outcome := do
  let ctx := Bullet.contextOf line owner known body
  match ← ctx.classify with
  | some fact => return .stated fact
  | none => return .unrecognized owner ctx.text

/-- What comes of prose. -/
def ofProse (known : List String) (place : Place) (line : Nat) (text : List Char) :
    Except CountError Outcome :=
  if place.describing then .ok (.described (String.ofList text))
  else
    match place.owner with
    | none => .ok .ignored
    | some owner => do
      if ← readsLikeFact known owner line text then
        return .unbulleted owner (String.ofList text)
      else return .ignored

/-- What comes of a line at a place. -/
def ofLine (known : List String) (place : Place) (number : Nat) (line : Line) :
    Except ReadError Outcome :=
  match line with
  | .fenced | .blank | .heading => .ok .skipped
  | .header name description text => .ok (.declared name description text)
  | .bullet body =>
    match place.owner with
    | none => .error (.orphanBullet number)
    | some owner => (ofBullet known owner number body).mapError .count
  | .prose text => (ofProse known place number text).mapError .count

end Outcome

/-- The outcomes of the lines of a text, up to the line at which reading stops, if it does. -/
structure Trace where
  outcomes : List (Nat × Outcome)
  failure : Option ReadError
  deriving DecidableEq, Repr

namespace Trace

open Outcome (Place)

/-- Traces the lines that follow a place. -/
def ofLines (known : List String) (place : Place) : List (Nat × Line) → Trace
  | [] => { outcomes := [], failure := none }
  | (number, line) :: rest =>
    match Outcome.ofLine known place number line with
    | .error failure => { outcomes := [], failure := some failure }
    | .ok outcome =>
      let trace := ofLines known (place.after line) rest
      { trace with outcomes := (number, outcome) :: trace.outcomes }

/-- Traces a model text. -/
def ofText (text : String) : Trace :=
  ofLines (Line.scannedNames text) .top (Line.ofText text)

end Trace

end FactModel
