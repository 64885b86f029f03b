import FactModel.Proofs.Document.Places
import FactModel.Proofs.Text.Tidy

/-!
# Descriptions that are read

However many lines a description is written on, it is read as one line without blanks around it, or
as nothing: each of its lines is trimmed, empty ones are left out, and the rest is joined by single
spaces.
-/

namespace FactModel

open FactModel.Text

/-- The lines of a text are not broken any further. -/
theorem Text.unbroken_of_mem_lines {cs line : List Char} (mem : line ∈ lines cs) :
    ∀ c ∈ line, isLineBreak c = false := by
  induction cs using lines.induct generalizing line with
  | case1 => simp [lines] at mem
  | case2 cs ih =>
    rw [lines] at mem
    rcases List.mem_cons.mp mem with rfl | later
    · simp
    · exact ih later
  | case3 c cs other breaks ih =>
    rw [lines, if_pos breaks] at mem
    · rcases List.mem_cons.mp mem with rfl | later
      · simp
      · exact ih later
    · exact other
  | case4 c cs other noBreak ih =>
    have solid : isLineBreak c = false := by simpa using noBreak
    rw [lines, if_neg noBreak] at mem
    · cases cut : lines cs with
      | nil =>
        rw [cut, attach, List.mem_singleton] at mem
        rw [mem]
        simpa using solid
      | cons first rest =>
        rw [cut, attach] at mem
        rcases List.mem_cons.mp mem with rfl | later
        · rintro d (_ | ⟨_, inFirst⟩)
          · exact solid
          · exact ih (by simp [cut]) d inFirst
        · exact ih (by simp [cut, later])
    · exact other

/-! ## One line -/

/-- A description that can stand in a header: one line without blanks around it, or nothing. -/
structure Describable (description : String) : Prop where
  begins : ∀ c ∈ description.toList.head?, isBlank c = false
  ends : ∀ c ∈ description.toList.getLast?, isBlank c = false
  unbroken : ∀ c ∈ description.toList, isLineBreak c = false

namespace Describable

theorem empty : Describable "" := by
  constructor <;> simp

theorem trim {raw : List Char} (unbroken : ∀ c ∈ raw, isLineBreak c = false) :
    Describable (String.ofList (Text.trim raw)) := by
  constructor <;> rw [String.toList_ofList]
  · exact not_isBlank_head?_trim raw
  · exact not_isBlank_getLast?_trim raw
  · exact fun c mem => unbroken c (mem_of_mem_trim mem)

theorem append {front back : String} (frontIs : Describable front) (backIs : Describable back)
    (frontNe : front ≠ "") (backNe : back ≠ "") : Describable (front ++ " " ++ back) := by
  have frontNe : front.toList ≠ [] := by simpa using frontNe
  have backNe : back.toList ≠ [] := by simpa using backNe
  constructor <;> rw [String.toList_append, String.toList_append]
  · rw [List.append_assoc, List.head?_append_of_ne_nil _ frontNe]
    exact frontIs.begins
  · rw [List.getLast?_append_of_ne_nil _ backNe]
    exact backIs.ends
  · intro c mem
    rw [List.mem_append, List.mem_append] at mem
    rcases mem with (inFront | isSpace) | inBack
    · exact frontIs.unbroken c inFront
    · obtain rfl := List.mem_singleton.mp isSpace
      rfl
    · exact backIs.unbroken c inBack

theorem intercalate {parts : List String}
    (each : ∀ part ∈ parts, part ≠ "" ∧ Describable part) :
    Describable (" ".intercalate parts) ∧ (parts ≠ [] → " ".intercalate parts ≠ "") := by
  induction parts with
  | nil => exact ⟨empty, by simp⟩
  | cons part rest ih =>
    obtain ⟨ne, isOne⟩ := each part List.mem_cons_self
    obtain ⟨restIs, restNe⟩ := ih fun other mem => each other (List.mem_cons_of_mem _ mem)
    by_cases last : rest = []
    · rw [last, String.intercalate_singleton]
      exact ⟨isOne, fun _ => ne⟩
    · rw [String.intercalate_cons_of_ne_nil last]
      refine ⟨isOne.append restIs ne (restNe last), fun _ none => ne ?_⟩
      simpa using congrArg String.toList none

theorem joinDescription {parts : List String} (each : ∀ part ∈ parts, Describable part) :
    Describable (Document.joinDescription parts) := by
  refine (intercalate fun part mem => ?_).1
  obtain ⟨inParts, ne⟩ := List.mem_filter.mp mem
  exact ⟨of_decide_eq_true ne, each part inParts⟩

end Describable

/-! ## Documents -/

/-- What a line has for a description. -/
def Line.description? : Line → Option String
  | .header _ description _ => some description
  | .prose text => some (String.ofList text)
  | _ => none

/-- What an outcome contributes to a description. -/
def Outcome.description? : Outcome → Option String
  | .declared _ description _ => some description
  | .described text => some text
  | _ => none

/-- The description in a header is what is left of a part of the line. -/
theorem Line.of_header?_eq_some {text name description : List Char}
    (found : header? text = some (name, description)) :
    description = [] ∨ ∃ tail, tail <:+ text ∧ description = Text.trim tail := by
  unfold header? at found
  split at found
  · next rest =>
    extract_lets isNameChar taken at found
    have whole : rest.dropWhile isNameChar <:+ '*' :: '*' :: rest :=
      (List.dropWhile_suffix _).trans ((List.suffix_cons ..).trans (List.suffix_cons ..))
    split at found
    · contradiction
    · split at found
      · next behind isBehind =>
        obtain ⟨-, rfl⟩ := Prod.mk.inj (Option.some.inj found)
        rw [isBehind] at whole
        exact .inr ⟨behind, (List.suffix_append [':', '*', '*'] behind).trans whole, rfl⟩
      · next tail isTail =>
        rw [isTail] at whole
        have tailWhole : tail.dropWhile isBlank <:+ '*' :: '*' :: rest :=
          (List.dropWhile_suffix _).trans ((List.suffix_append ['*', '*'] tail).trans whole)
        split at found
        · obtain ⟨-, rfl⟩ := Prod.mk.inj (Option.some.inj found)
          exact .inl rfl
        · next behind isBehind =>
          obtain ⟨-, rfl⟩ := Prod.mk.inj (Option.some.inj found)
          rw [isBehind] at tailWhole
          exact .inr ⟨behind, (List.suffix_cons ..).trans tailWhole, rfl⟩
        · contradiction
      · contradiction
  · contradiction

theorem Line.describable_ofRaw {raw : List Char} (unbroken : ∀ c ∈ raw, isLineBreak c = false) :
    ∀ description ∈ (ofRaw raw).description?, Describable description := by
  intro description isRead
  rw [ofRaw] at isRead
  split at isRead
  · contradiction
  · split at isRead
    · next name behind isHeader =>
      obtain rfl := Option.some.inj isRead
      rcases of_header?_eq_some isHeader with rfl | ⟨tail, isTail, rfl⟩
      · exact .empty
      · exact .trim fun c mem => unbroken c (mem_of_mem_trim (isTail.subset mem))
    · split at isRead
      · contradiction
      · split at isRead
        · contradiction
        · obtain rfl := Option.some.inj isRead
          exact .trim unbroken

theorem Line.describable_of_mem_ofText {text : String} {n : Nat} {line : Line}
    (mem : (n, line) ∈ ofText text) :
    ∀ description ∈ line.description?, Describable description := by
  obtain ⟨i, there⟩ := List.mem_iff_getElem?.mp mem
  rw [getElem?_ofText] at there
  obtain ⟨raw, found, same⟩ := Option.map_eq_some_iff.mp there
  obtain ⟨-, rfl⟩ := Prod.mk.inj same
  split
  · simp [description?]
  · exact describable_ofRaw (unbroken_of_mem_lines (List.mem_of_getElem? found))

theorem Trace.describable_ofLines {known : List String} {place : Outcome.Place}
    {ls : List (Nat × Line)}
    (each : ∀ l ∈ ls, ∀ description ∈ l.2.description?, Describable description) :
    ∀ o ∈ (Trace.ofLines known place ls).outcomes,
      ∀ description ∈ o.2.description?, Describable description := by
  induction ls generalizing place with
  | nil => simp [Trace.ofLines]
  | cons head rest ih =>
    obtain ⟨number, line⟩ := head
    unfold Trace.ofLines
    cases read : Outcome.ofLine known place number line with
    | error failure => simp
    | ok outcome =>
      rintro o (_ | ⟨_, later⟩)
      · have here := each (number, line) List.mem_cons_self
        cases Outcome.comes_of_ofLine read with
        | declared name description text => exact here
        | described describing => exact here
        | _ => simp [Outcome.description?]
      · exact ih (fun other mem => each other (List.mem_cons_of_mem _ mem)) o later

theorem Document.describable_statementsOf {outcomes : List (Nat × Outcome)}
    (each : ∀ o ∈ outcomes, ∀ description ∈ o.2.description?, Describable description) :
    ∀ s ∈ Draft.declarations (statementsOf outcomes), Describable s.description := by
  induction outcomes with
  | nil => simp [statementsOf, Draft.declarations]
  | cons head rest ih =>
    have later := ih fun other mem => each other (List.mem_cons_of_mem _ mem)
    obtain ⟨number, outcome⟩ := head
    cases outcome with
    | declared name description text =>
      intro s mem
      -- The description of a declaration is that of its header and of the lines that follow it.
      rcases List.mem_cons.mp (show s ∈ _ :: Draft.declarations (statementsOf rest) from mem)
        with rfl | inRest
      · refine .joinDescription fun part isPart => ?_
        rcases List.mem_cons.mp isPart with rfl | more
        · exact each (number, .declared name part text) List.mem_cons_self part rfl
        · obtain ⟨⟨n, o⟩, oMem, isLine⟩ := List.mem_filterMap.mp more
          have inRest := (List.takeWhile_sublist _).subset oMem
          refine each (n, o) (List.mem_cons_of_mem _ inRest) part ?_
          cases o with
          | described line => exact isLine
          | _ => contradiction
      · exact later s inRest
    | _ => exact later

/-- Every description that is read is one line. -/
theorem Document.describable_of_parse {text : String} {doc : Document}
    (read : Document.parse text = .ok doc) :
    ∀ s ∈ Draft.declarations doc.statements, Describable s.description := by
  simp only [Document.parse] at read
  split at read
  · contradiction
  · cases read
    exact describable_statementsOf
      (Trace.describable_ofLines fun _ mem => Line.describable_of_mem_ofText mem)

end FactModel
