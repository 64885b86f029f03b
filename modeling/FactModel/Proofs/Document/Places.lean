import FactModel.Proofs.Graph.Declaring
import Mathlib.Data.List.Induction

/-!
# Where a line stands

What comes of a line depends on what stands above it: the last header, whether a bullet or a heading
has come since, and how many fence marks there are.  This module says so without following the lines
from the top, and cuts the trace of a text at any of its lines.
-/

namespace FactModel

open FactModel.Text

namespace Line

/-! ## Fences -/

/-- Whether a line of a text stands in a fence or delimits one: it is a fence mark, or it stands
below an odd number of them. -/
def IsFenced (raws : List (List Char)) (i : Nat) : Prop :=
  (∃ raw, raws[i]? = some raw ∧ isFenceMark raw = true) ∨
    (raws.take i).countP isFenceMark % 2 = 1

/-- A fence mark is fenced itself, and opens or closes a fence for what stands below. -/
theorem ofRaws_cons (inFence : Bool) (raw : List Char) (raws : List (List Char)) :
    ofRaws inFence (raw :: raws) =
      (if isFenceMark raw = true ∨ inFence = true then .fenced else ofRaw raw) ::
        ofRaws (inFence ^^ isFenceMark raw) raws := by
  cases mark : isFenceMark raw <;> simp [ofRaws, mark]

/-- The form of a line, in a text that begins inside a fence or not. -/
theorem getElem?_ofRaws (inFence : Bool) (raws : List (List Char)) (i : Nat) :
    (ofRaws inFence raws)[i]? = raws[i]?.map fun raw =>
      if isFenceMark raw = true ∨ (inFence.toNat + (raws.take i).countP isFenceMark) % 2 = 1 then
        .fenced
      else ofRaw raw := by
  induction raws generalizing inFence i with
  | nil => rfl
  | cons first rest ih =>
    rw [ofRaws_cons]
    cases i with
    | zero => cases inFence <;> simp
    | succ i =>
      have flipped :
          ((inFence ^^ isFenceMark first).toNat + (rest.take i).countP isFenceMark) % 2 = 1 ↔
            (inFence.toNat + ((first :: rest).take (i + 1)).countP isFenceMark) % 2 = 1 := by
        rw [List.take_succ_cons, List.countP_cons]
        cases inFence <;> cases isFenceMark first <;> simp <;> omega
      simp only [List.getElem?_cons_succ, ih, flipped]

instance (raws : List (List Char)) (i : Nat) : Decidable (IsFenced raws i) :=
  decidable_of_iff (raws[i]?.any isFenceMark = true ∨ (raws.take i).countP isFenceMark % 2 = 1) <| by
    cases found : raws[i]? <;> simp [IsFenced, found]

/-- Lines are numbered from one, and a line outside of fences has a form of its own. -/
theorem getElem?_ofText (text : String) (i : Nat) :
    (ofText text)[i]? = (lines text.toList)[i]?.map fun raw =>
      (i + 1, if IsFenced (lines text.toList) i then .fenced else ofRaw raw) := by
  rw [ofText, List.getElem?_map, List.getElem?_zipIdx, getElem?_ofRaws]
  cases found : (lines text.toList)[i]? with
  | none => rfl
  | some raw => simp [IsFenced, found, Nat.add_comm 1]

/-- The numbers of lines increase. -/
theorem pairwise_ofText (text : String) : ((ofText text).map (·.1)).Pairwise (· < ·) := by
  have numbers : (ofText text).map (·.1) =
      List.range' 1 (ofRaws false (lines text.toList)).length := by
    rw [ofText, List.map_map, ← List.zipIdx_map_snd 1 (ofRaws false (lines text.toList))]
    rfl
  rw [numbers]
  exact List.pairwise_lt_range'

/-! ## What stands above -/

/-- Whether a line is the header of an entity. -/
def isHeader : Line → Bool
  | .header .. => true
  | _ => false

/-- Whether a line is a bullet. -/
def isBullet : Line → Bool
  | .bullet _ => true
  | _ => false

/-- Whether a line ends the description of the entity above it: a header, a bullet or a heading. -/
def isMark : Line → Bool
  | .header .. | .bullet _ | .heading => true
  | _ => false

/-- The entity whose header is the last above a line. -/
def ownerAbove (above : List (Nat × Line)) : Option String :=
  (above.filterMap headerName?).getLast?

/-- Whether the lines directly above still describe the entity of the last header: no bullet and no
heading has come since. -/
def describesAbove (above : List (Nat × Line)) : Bool :=
  (above.filter (·.2.isMark)).getLast?.any (·.2.isHeader)

end Line

namespace Outcome

/-- Only headers change the owner. -/
theorem Place.owner_after {place : Place} {line : Line} (other : line.isHeader = false) :
    (place.after line).owner = place.owner := by
  cases line <;> first | rfl | contradiction

/-- The place behind lines. -/
def Place.behind (place : Place) (above : List (Nat × Line)) : Place :=
  above.foldl (fun p l => p.after l.2) place

/-- A place is known from the lines above. -/
theorem Place.behind_top (above : List (Nat × Line)) : Place.top.behind above =
    { owner := Line.ownerAbove above, describing := Line.describesAbove above } := by
  induction above using List.reverseRecOn with
  | nil => rfl
  | append_singleton above l ih =>
    obtain ⟨n, line⟩ := l
    have last : Place.top.behind (above ++ [(n, line)]) = (Place.top.behind above).after line := by
      simp [Place.behind]
    rw [last, ih]
    cases line <;>
      simp [Place.after, Line.ownerAbove, Line.describesAbove, Line.headerName?, Line.isMark,
        Line.isHeader]

end Outcome

namespace Trace

open Outcome (Place)

variable {known : List String} {place : Place}

/-- What comes of lines is known from the parts of a text. -/
theorem ofLines_append {above below : List (Nat × Line)}
    (read : (ofLines known place (above ++ below)).failure = none) :
    (ofLines known place above).failure = none ∧
      (ofLines known (place.behind above) below).failure = none ∧
      (ofLines known place (above ++ below)).outcomes = (ofLines known place above).outcomes ++
        (ofLines known (place.behind above) below).outcomes := by
  induction above generalizing place with
  | nil => exact ⟨rfl, read, rfl⟩
  | cons l above ih =>
    obtain ⟨n, line⟩ := l
    rw [List.cons_append, ofLines] at read
    rw [List.cons_append, ofLines, ofLines]
    cases outcome : Outcome.ofLine known place n line with
    | error failure => simp [outcome] at read
    | ok outcome' =>
      simp only [outcome] at read ⊢
      obtain ⟨front, back, same⟩ := ih read
      exact ⟨front, back, by rw [same]; rfl⟩

/-- Every line that is read has an outcome. -/
theorem map_fst_outcomes {ls : List (Nat × Line)} (read : (ofLines known place ls).failure = none) :
    (ofLines known place ls).outcomes.map (·.1) = ls.map (·.1) := by
  induction ls generalizing place with
  | nil => rfl
  | cons l rest ih =>
    obtain ⟨n, line⟩ := l
    rw [ofLines] at read ⊢
    cases outcome : Outcome.ofLine known place n line with
    | error failure => simp [outcome] at read
    | ok outcome' =>
      simp only [outcome] at read ⊢
      rw [List.map_cons, List.map_cons, ih read]

/-- The trace of a text that is read, cut at a line. -/
theorem exists_outcome {above below : List (Nat × Line)} {n : Nat} {line : Line}
    (read : (ofLines known place (above ++ (n, line) :: below)).failure = none) :
    ∃ outcome, Outcome.ofLine known (place.behind above) n line = .ok outcome ∧
      (ofLines known ((place.behind above).after line) below).failure = none ∧
      (ofLines known place (above ++ (n, line) :: below)).outcomes =
        (ofLines known place above).outcomes ++ (n, outcome) ::
          (ofLines known ((place.behind above).after line) below).outcomes := by
  obtain ⟨-, back, same⟩ := ofLines_append read
  rw [ofLines] at back same
  cases here : Outcome.ofLine known (place.behind above) n line with
  | error failure => simp [here] at back
  | ok outcome =>
    simp only [here] at back same
    exact ⟨outcome, rfl, back, same⟩

end Trace

end FactModel
