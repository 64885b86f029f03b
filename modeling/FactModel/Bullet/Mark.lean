import FactModel.Name
import FactModel.Text.Phrase

/-!
# Marks of a bullet

A bullet may set names in bold and end in a period or a semicolon.  Bold marks tell that a name is
an entity; they are removed together with the end mark before the bullet is read.
-/

namespace FactModel.Bullet

open FactModel.Text

/-- The text between the asterisks and the rest, when a name in bold starts right here. -/
def boldHere : List Char → Option (List Char × List Char)
  | '*' :: '*' :: cs =>
    match cs.takeWhile (· ≠ '*'), cs.dropWhile (· ≠ '*') with
    | c :: inner, '*' :: '*' :: rest => some (c :: inner, rest)
    | _, _ => none
  | _ => none

/-- What follows a name in bold is shorter than what it was found in. -/
theorem length_lt_of_boldHere {cs inner rest : List Char} (h : boldHere cs = some (inner, rest)) :
    rest.length < cs.length := by
  unfold boldHere at h
  split at h
  · next tail =>
    split at h
    · next after =>
      obtain ⟨-, rfl⟩ := by simpa using h
      have := (List.dropWhile_suffix (l := tail) (· ≠ '*')).length_le
      rw [after] at this
      simp only [List.length_cons] at this ⊢
      omega
    · simp at h
  · simp at h

/-- A text without bold marks and the names that were set in bold, from left to right. -/
def unbold (cs : List Char) : List Char × List (List Char) :=
  match found : boldHere cs with
  | some (inner, rest) =>
    have := length_lt_of_boldHere found
    let (text, names) := unbold rest
    (inner ++ text, inner :: names)
  | none =>
    match cs with
    | [] => ([], [])
    | c :: rest =>
      let (text, names) := unbold rest
      (c :: text, names)
termination_by cs.length

/-- A bullet body ready to be read: the text without its marks, and the keys of its bold names. -/
structure Clean where
  text : String
  bold : List String
  deriving DecidableEq, Repr

/-- Removes the marks of a bullet body. -/
def clean (body : List Char) : Clean :=
  let (text, names) := unbold body
  { text := String.ofList (trim (trimEnd (fun c => c == '.' || c == ';') (squeeze text)))
    bold := (names.map fun n => Name.key (String.ofList n)).eraseDups }

end FactModel.Bullet
