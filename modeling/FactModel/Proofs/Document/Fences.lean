import FactModel.Proofs.Document.Places

/-!
# What stands in fences

Two texts that differ in fences only are read alike.  A line in a fence can only matter by being a
fence mark: the fences of a text are known from where its marks stand, so that two texts with marks
at the same places have the same fences, and then the same forms of lines.
-/

namespace FactModel

open FactModel.Text

namespace Line

variable {raws raws' : List (List Char)}

/-- Whether a fence is open where a line stands: there is an odd number of fence marks above it. -/
def InFence (raws : List (List Char)) (i : Nat) : Prop :=
  (raws.take i).countP isFenceMark % 2 = 1

instance (raws : List (List Char)) (i : Nat) : Decidable (InFence raws i) :=
  inferInstanceAs (Decidable (_ = _))

/-- As many lines, and at each place either the same line in both texts, or a fence mark in both, or
no fence mark in either and a fence of the first text that is open there. -/
structure DifferInFences (raws raws' : List (List Char)) : Prop where
  length : raws.length = raws'.length
  lines : ∀ i (bound : i < raws.length) (bound' : i < raws'.length),
    raws[i] = raws'[i] ∨
      (isFenceMark raws[i] = true ∧ isFenceMark raws'[i] = true) ∨
      (InFence raws i ∧ isFenceMark raws[i] = false ∧ isFenceMark raws'[i] = false)

/-- Texts that differ in fences only have their fence marks at the same places. -/
theorem DifferInFences.marks (differ : DifferInFences raws raws') :
    raws.map isFenceMark = raws'.map isFenceMark := by
  refine List.ext_getElem (by simp [differ.length]) fun i bound bound' => ?_
  rw [List.length_map] at bound bound'
  rw [List.getElem_map, List.getElem_map]
  rcases differ.lines i bound bound' with same | ⟨mark, mark'⟩ | ⟨-, plain, plain'⟩
  · rw [same]
  · rw [mark, mark']
  · rw [plain, plain']

/-- The marks above a line are counted where they stand. -/
theorem countP_take_eq_of_marks (marks : raws.map isFenceMark = raws'.map isFenceMark) (i : Nat) :
    (raws.take i).countP isFenceMark = (raws'.take i).countP isFenceMark := by
  have count_eq (ls : List (List Char)) :
      (ls.take i).countP isFenceMark = ((ls.map isFenceMark).take i).countP id := by
    rw [← List.map_take, List.countP_map]
    rfl
  rw [count_eq, count_eq, marks]

/-- Where fence marks stand at the same places, the same places are fenced. -/
theorem isFenced_iff_of_marks (marks : raws.map isFenceMark = raws'.map isFenceMark) (i : Nat) :
    IsFenced raws i ↔ IsFenced raws' i := by
  have here : (∃ raw, raws[i]? = some raw ∧ isFenceMark raw = true) ↔
      ∃ raw, raws'[i]? = some raw ∧ isFenceMark raw = true := by
    simp only [← Option.map_eq_some_iff, ← List.getElem?_map, marks]
  rw [IsFenced, IsFenced, here, countP_take_eq_of_marks marks]

/-- Lines that are not fenced are the same. -/
theorem DifferInFences.getElem_eq (differ : DifferInFences raws raws') {i : Nat}
    (bound : i < raws.length) (bound' : i < raws'.length) (outside : ¬IsFenced raws i) :
    raws[i] = raws'[i] := by
  rcases differ.lines i bound bound' with same | ⟨mark, -⟩ | ⟨inFence, -⟩
  · exact same
  · exact absurd (.inl ⟨raws[i], List.getElem?_eq_getElem bound, mark⟩) outside
  · exact absurd (.inr inFence) outside

/-- The lines of texts that differ in fences only have the same forms. -/
theorem ofText_eq {text text' : String}
    (differ : DifferInFences (lines text.toList) (lines text'.toList)) :
    ofText text = ofText text' := by
  refine List.ext_getElem? fun i => ?_
  rw [getElem?_ofText, getElem?_ofText]
  by_cases bound : i < (lines text.toList).length
  · have bound' : i < (lines text'.toList).length := differ.length ▸ bound
    rw [List.getElem?_eq_getElem bound, List.getElem?_eq_getElem bound', Option.map_some,
      Option.map_some]
    by_cases fenced : IsFenced (lines text.toList) i
    · rw [if_pos fenced, if_pos ((isFenced_iff_of_marks differ.marks i).mp fenced)]
    · rw [if_neg fenced, if_neg (fenced ∘ (isFenced_iff_of_marks differ.marks i).mpr),
        differ.getElem_eq bound bound' fenced]
  · have beyond : (lines text.toList).length ≤ i := Nat.le_of_not_lt bound
    rw [List.getElem?_eq_none beyond, List.getElem?_eq_none (differ.length ▸ beyond)]
    rfl

end Line

namespace Document

/-- What stands in fences, a fence that is never closed among them, has no influence on what a text
is read as, nor on whether and where reading stops. -/
theorem parse_eq_of_differInFences {text text' : String}
    (differ : Line.DifferInFences (lines text.toList) (lines text'.toList)) :
    parse text = parse text' := by
  simp only [parse, Trace.ofText, Line.scannedNames_eq, Line.ofText_eq differ]

/-- A header in a fence that is never closed declares nothing: the bullet states an attribute. -/
theorem parse_eq_unclosed :
    let front := "**A**\n- A has a B.\n" ++ String.ofList Line.fenceMark
    Line.DifferInFences (lines (front ++ "\n**B**: b\n").toList)
        (lines (front ++ " text\n- A\n").toList) ∧
      (∃ doc, parse (front ++ "\n**B**: b\n") = .ok doc ∧ doc.entityNames = ["A"] ∧
        doc.statements.length = 2) ∧
      parse (front ++ "\n**B**: b\n") = parse (front ++ " text\n- A\n") := by
  intro front
  have differ : Line.DifferInFences (lines (front ++ "\n**B**: b\n").toList)
      (lines (front ++ " text\n- A\n").toList) :=
    ⟨by decide +kernel, by decide +kernel⟩
  have passes : (match parse (front ++ "\n**B**: b\n") with
      | .ok doc => decide (doc.entityNames = ["A"] ∧ doc.statements.length = 2)
      | .error _ => false) = true := by
    decide +kernel
  refine ⟨differ, ?_, parse_eq_of_differInFences differ⟩
  cases read : parse (front ++ "\n**B**: b\n") with
  | error e => simp [read] at passes
  | ok doc =>
    simp only [read] at passes
    exact ⟨doc, rfl, of_decide_eq_true passes⟩

end Document

end FactModel
