import FactModel.Text.Blank
import FactModel.Text.Case
import FactModel.Text.Word

/-!
# Finding phrases

Facts and questions are read by cutting them at fixed phrases, letters compared up to case.  Where
a phrase can be found in several places the candidates are listed in order of preference, nearest
first, so that a reader takes the first candidate for which all that follows works out.
-/

namespace FactModel.Text

/-- What remains of a text after a phrase at its front. -/
def stripPhrase : List Char → List Char → Option (List Char)
  | [], cs => some cs
  | _ :: _, [] => none
  | p :: ps, c :: cs => if sameLetter p c then stripPhrase ps cs else none

/-- The remainders after each of the phrases that stand at the front, in the order given. -/
def stripAny (phrases : List String) (cs : List Char) : List (List Char) :=
  phrases.filterMap fun phrase => stripPhrase phrase.toList cs

/-- The remainders after an optional phrase, with the phrase taken first and left out last. -/
def stripOptional (phrases : List String) (cs : List Char) : List (List Char) :=
  stripAny phrases cs ++ [cs]

/-- The ways to cut a text at one of the phrases with something in front of it, nearest first. -/
def cuts (phrases : List String) : List Char → List (List Char × List Char)
  | [] => []
  | c :: cs =>
    (stripAny phrases cs).map (fun rest => ([c], rest)) ++
      (cuts phrases cs).map (fun (front, rest) => (c :: front, rest))

/-- The remainders after one or more blanks, with as many blanks as possible taken first. -/
def stripBlanks : List Char → List (List Char)
  | [] => []
  | c :: cs => if isBlank c then stripBlanks cs ++ [cs] else []

/-- The leftmost place where a reader succeeds: what stands in front of it and what was read. -/
def search {α : Type} (read : List Char → Option α) : List Char → Option (List Char × α)
  | [] => (read []).map ([], ·)
  | c :: cs =>
    match read (c :: cs) with
    | some found => some ([], found)
    | none => (search read cs).map fun (front, found) => (c :: front, found)

/-- A text up to its end, a final line feed left out; nothing else may break the line. -/
def toLineEnd (cs : List Char) : Option (List Char) :=
  let text := cs.takeWhile (· ≠ '\n')
  if text = [] then none
  else if cs.dropWhile (· ≠ '\n') = [] ∨ cs.dropWhile (· ≠ '\n') = ['\n'] then some text
  else none

/-- A phrase in place: it begins and ends at word boundaries, `before` being the character in
front.  The phrase as written and the remainder are returned. -/
def wholePhrase (phrase : List Char) (before : Option Char) (cs : List Char) :
    Option (List Char × List Char) :=
  if boundary before cs.head? then
    match stripPhrase phrase cs with
    | some rest =>
      let written := cs.take phrase.length
      if boundary (written.getLast?.or before) rest.head? then some (written, rest) else none
    | none => none
  else none

/-- The leftmost occurrence of a phrase between word boundaries, as it is written there. -/
def findWhole (phrase : List Char) (before : Option Char) : List Char → Option (List Char)
  | [] => (wholePhrase phrase before []).map (·.1)
  | c :: cs =>
    match wholePhrase phrase before (c :: cs) with
    | some (written, _) => some written
    | none => findWhole phrase (some c) cs

/-- Whether one of the phrases occurs between word boundaries. -/
def mentionsAny (phrases : List String) (cs : List Char) : Bool :=
  phrases.any fun phrase => (findWhole phrase.toList none cs).isSome

/-- A stripped phrase is as long as what was taken away. -/
theorem length_of_stripPhrase {phrase cs rest : List Char}
    (h : stripPhrase phrase cs = some rest) : cs.length = phrase.length + rest.length := by
  induction phrase generalizing cs with
  | nil => simp_all [stripPhrase]
  | cons p ps ih =>
    cases cs with
    | nil => simp [stripPhrase] at h
    | cons c cs =>
      simp only [stripPhrase] at h
      split at h
      · simp [ih h]; omega
      · simp at h

/-- A phrase followed by anything is stripped from its front. -/
@[simp]
theorem stripPhrase_append (phrase rest : List Char) :
    stripPhrase phrase (phrase ++ rest) = some rest := by
  induction phrase with
  | nil => rfl
  | cons p ps ih => simp [stripPhrase, ih]

end FactModel.Text
