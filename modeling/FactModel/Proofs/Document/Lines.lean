import FactModel.Artifact.Blocks
import FactModel.Document.Line
import FactModel.Proofs.Text.Tidy

/-!
# The lines of a written text

Lines that are written one below the other, in blocks with an empty line between them, are found
again.  The module also tells which form the lines of a description have: headers and bullets.
-/

namespace FactModel

namespace Text

theorem lines_cons {c : Char} (noBreak : isLineBreak c = false) (cs : List Char) :
    lines (c :: cs) = attach c (lines cs) := by
  rw [lines]
  · rw [noBreak]
    rfl
  · rintro cs rfl
    simp [isLineBreak] at noBreak

/-- A line feed ends the line in front of it. -/
theorem lines_append_lineFeed {line : List Char} (noBreak : ∀ c ∈ line, isLineBreak c = false)
    (rest : List Char) : lines (line ++ '\n' :: rest) = line :: lines rest := by
  induction line with
  | nil =>
    rw [List.nil_append, lines]
    · rfl
    · simp
  | cons c line ih =>
    rw [List.cons_append, lines_cons (noBreak c List.mem_cons_self),
      ih fun d mem => noBreak d (List.mem_cons_of_mem _ mem)]
    rfl

end Text

namespace Artifact

open FactModel.Text

/-- The lines of blocks with an empty line between each two of them. -/
def spaced (blocks : List (List String)) : List String :=
  [""].intercalate blocks

theorem spaced_cons {block : List String} {blocks : List (List String)} (ne : blocks ≠ []) :
    spaced (block :: blocks) = block ++ "" :: spaced blocks := by
  obtain ⟨next, rest, rfl⟩ := List.exists_cons_of_ne_nil ne
  simp [spaced, List.intercalate]

theorem lines_unlines {parts : List String} (ne : parts ≠ [])
    (noBreak : ∀ part ∈ parts, ∀ c ∈ part.toList, isLineBreak c = false) (rest : List Char) :
    lines ((unlines parts).toList ++ '\n' :: rest) = parts.map String.toList ++ lines rest := by
  induction parts with
  | nil => contradiction
  | cons part parts ih =>
    have here := noBreak part List.mem_cons_self
    by_cases last : parts = []
    · subst last
      simpa [unlines] using lines_append_lineFeed here rest
    · have later := ih last fun other mem => noBreak other (List.mem_cons_of_mem _ mem)
      rw [unlines, String.intercalate_cons_of_ne_nil last, String.toList_append,
        String.toList_append, List.append_assoc, List.append_assoc]
      change lines (part.toList ++ '\n' :: ((unlines parts).toList ++ '\n' :: rest)) = _
      rw [lines_append_lineFeed here, later]
      rfl

/-- The lines of written blocks. -/
theorem lines_blocksIfAny {blocks : List (List String)} (ne : ∀ block ∈ blocks, block ≠ [])
    (noBreak : ∀ block ∈ blocks, ∀ part ∈ block, ∀ c ∈ part.toList, isLineBreak c = false) :
    lines (blocksIfAny (blocks.map unlines)).toList = (spaced blocks).map String.toList := by
  by_cases none : blocks = []
  · subst none
    rfl
  · have some : blocksIfAny (blocks.map unlines) = Artifact.blocks (blocks.map unlines) := by
      simp [blocksIfAny, none]
    rw [some]
    clear some
    induction blocks with
    | nil => contradiction
    | cons block blocks ih =>
      have here := lines_unlines (ne block List.mem_cons_self) (noBreak block List.mem_cons_self)
      rw [Artifact.blocks, List.map_cons]
      by_cases last : blocks = []
      · subst last
        simpa [spaced, List.intercalate, lines] using here []
      · have later := ih (fun other mem => ne other (List.mem_cons_of_mem _ mem))
          (fun other mem => noBreak other (List.mem_cons_of_mem _ mem)) last
        rw [String.intercalate_cons_of_ne_nil (by simpa using last), String.toList_append,
          String.toList_append, String.toList_append, List.append_assoc, List.append_assoc]
        change lines ((unlines block).toList ++ '\n' :: '\n' ::
          ((String.intercalate "\n\n" (blocks.map unlines)).toList ++ "\n".toList)) = _
        rw [here, ← String.toList_append]
        change _ ++ lines ([] ++ '\n' :: (Artifact.blocks (blocks.map unlines)).toList) = _
        rw [lines_append_lineFeed (by simp), later, spaced_cons last]
        simp

end Artifact

namespace Line

open FactModel.Text

theorem ofRaws_eq_map {raws : List (List Char)} (noFence : ∀ raw ∈ raws, isFenceMark raw = false) :
    ofRaws false raws = raws.map ofRaw := by
  induction raws with
  | nil => rfl
  | cons raw raws ih =>
    rw [ofRaws, noFence raw List.mem_cons_self,
      ih fun other mem => noFence other (List.mem_cons_of_mem _ mem)]
    rfl

theorem isFenceMark_of_trim {raw : List Char} {c : Char} {cs : List Char}
    (trimmed : trim raw = c :: cs) (other : c ≠ Char.ofNat 0x60) : isFenceMark raw = false := by
  rw [isFenceMark, trimmed]
  simp [fenceMark, List.replicate, List.isPrefixOf, Ne.symm other]

/-! ## Headers and bullets -/

/-- A nonempty text without blanks around it. -/
structure Trimmed (cs : List Char) : Prop where
  ne : cs ≠ []
  begins : ∀ c ∈ cs.head?, isBlank c = false
  ends : ∀ c ∈ cs.getLast?, isBlank c = false

theorem Trimmed.trim_eq {cs : List Char} (trimmed : Trimmed cs) : trim cs = cs :=
  trim_eq_self trimmed.begins trimmed.ends

/-- A text that begins without a blank and goes on to one without blanks around it. -/
theorem Trimmed.append {c : Char} (front : List Char) {cs : List Char} (solid : isBlank c = false)
    (trimmed : Trimmed cs) : Trimmed (c :: front ++ cs) := by
  constructor
  · simp
  · simpa using solid
  · intro d isLast
    rw [List.getLast?_append, Option.or_of_isSome (by simpa using trimmed.ne)] at isLast
    exact trimmed.ends d isLast

theorem trimmed_bullet {body : List Char} (trimmed : Trimmed body) :
    Trimmed ("- ".toList ++ body) :=
  trimmed.append [' '] (by decide)

theorem ofRaw_bullet {body : List Char} (trimmed : Trimmed body) :
    ofRaw ("- ".toList ++ body) = .bullet body := by
  have noHeader : header? ("- ".toList ++ body) = none := rfl
  have read : bullet? ("- ".toList ++ body) = some body := by
    simp [bullet?, isBlank, trimmed.trim_eq, trimmed.ne]
  rw [ofRaw, (trimmed_bullet trimmed).trim_eq, noHeader]
  simp only [read]
  rfl

/-- What stands behind the name in the header of an entity. -/
def headerTail (description : List Char) : List Char :=
  if description = [] then [] else ": ".toList ++ description

theorem header?_eq {name description : List Char} (ne : name ≠ [])
    (plain : ∀ c ∈ name, c ≠ '*' ∧ c ≠ ':') (trimmed : description = [] ∨ Trimmed description) :
    header? ("**".toList ++ (name ++ ("**".toList ++ headerTail description))) =
      some (name, description) := by
  have inName : ∀ c ∈ name, decide (c ≠ '*' ∧ c ≠ ':') = true := by
    simpa using plain
  have taken : (name ++ ("**".toList ++ headerTail description)).takeWhile
      (fun c => decide (c ≠ '*' ∧ c ≠ ':')) = name := by
    rw [List.takeWhile_append_of_pos inName]
    simp
  have dropped : (name ++ ("**".toList ++ headerTail description)).dropWhile
      (fun c => decide (c ≠ '*' ∧ c ≠ ':')) = '*' :: '*' :: headerTail description := by
    rw [List.dropWhile_append_of_pos inName]
    simp
  change header? ('*' :: '*' :: (name ++ ("**".toList ++ headerTail description))) = _
  rw [header?]
  simp only [taken, dropped, if_neg ne]
  rcases trimmed with rfl | trimmed
  · rfl
  · have spaced : trim (' ' :: description) = description := by
      rw [trim, List.dropWhile_cons_of_pos (by decide)]
      exact trimmed.trim_eq
    rw [headerTail, if_neg trimmed.ne]
    change some (name, trim (' ' :: description)) = _
    rw [spaced]

/-- The header of an entity as it is written. -/
def headerChars (name description : List Char) : List Char :=
  "**".toList ++ (name ++ ("**".toList ++ headerTail description))

theorem trimmed_header {name description : List Char}
    (trimmed : description = [] ∨ Trimmed description) : Trimmed (headerChars name description) := by
  have tail : Trimmed ("**".toList ++ headerTail description) := by
    rcases trimmed with rfl | trimmed
    · constructor <;> decide
    · rw [headerTail, if_neg trimmed.ne, ← List.append_assoc]
      exact trimmed.append ['*', ':', ' '] (by decide)
  rw [headerChars, ← List.append_assoc]
  exact tail.append ('*' :: name) (by decide)

theorem ofRaw_header {name description : List Char} (ne : name ≠ [])
    (plain : ∀ c ∈ name, c ≠ '*' ∧ c ≠ ':') (trimmed : description = [] ∨ Trimmed description) :
    ofRaw (headerChars name description) =
      .header (Name.display (String.ofList name)) (String.ofList description)
        (String.ofList (headerChars name description)) := by
  rw [ofRaw, (trimmed_header trimmed).trim_eq, if_neg (trimmed_header trimmed).ne, headerChars,
    header?_eq ne plain trimmed]

end Line

end FactModel
