import FactModel.Name
import FactModel.Proofs.Text.Phrases
import FactModel.Proofs.Text.Tidy
import Mathlib.Data.List.Nodup

/-!
# Keys of names

The key of a name folds its case and squeezes its blanks.  It is empty only where the name is blank,
and there is a space in it just where there is more than one word in the name, so that names put
together from several others are told apart from identifiers.
-/

namespace FactModel

/-- Where keys are distinct, an element is found by its key. -/
theorem find?_of_nodup_map {α κ : Type} [BEq κ] [LawfulBEq κ] {key : α → κ} {l : List α}
    (distinct : (l.map key).Nodup) {a : α} (mem : a ∈ l) {k : κ} (same : key a = k) :
    l.find? (key · == k) = some a := by
  have there : (l.find? (key · == k)).isSome = true :=
    List.find?_isSome.mpr ⟨a, mem, by simp [same]⟩
  rcases Option.isSome_iff_exists.mp there with ⟨b, found⟩
  have otherKey : key b = k := eq_of_beq (List.find?_some found :)
  rw [found, List.inj_on_of_nodup_map distinct (List.mem_of_find?_eq_some found) mem
    (otherKey.trans same.symm)]

namespace Text

/-! ## Folding -/

theorem mem_of_foldSequence {n : Nat} {rows : List (Nat × List Nat)} {folded : List Nat}
    (found : foldSequence n rows = some folded) : (n, folded) ∈ rows := by
  induction rows with
  | nil => contradiction
  | cons row rest ih =>
    obtain ⟨code, sequence⟩ := row
    rw [foldSequence] at found
    split at found
    · contradiction
    · split at found
      · next same =>
        cases found
        simp [same]
      · exact List.mem_cons_of_mem _ (ih found)

theorem foldChar_ne_nil (c : Char) : foldChar c ≠ [] := by
  unfold foldChar
  split
  · next folded found =>
    have some : ∀ row ∈ foldSequences, row.2 ≠ [] := by decide +kernel
    have ne := some (c.toNat, folded) (mem_of_foldSequence found)
    rwa [ne_eq, List.map_eq_nil_iff]
  · split <;> exact List.cons_ne_nil _ _

theorem fold_ne_nil {cs : List Char} (ne : cs ≠ []) : fold cs ≠ [] := by
  obtain ⟨c, rest, rfl⟩ := List.exists_cons_of_ne_nil ne
  simp [fold, foldChar_ne_nil]

theorem eq_of_ofNat_eq_space {n : Nat} (same : Char.ofNat n = ' ') : n = 0x20 := by
  have code : (Char.ofNat n).toNat = 0x20 := congrArg Char.toNat same
  rcases toNat_ofNat_cases n with valid | invalid <;> omega

/-- Folding makes no spaces of other characters. -/
theorem eq_space_of_mem_foldChar {c : Char} (mem : ' ' ∈ foldChar c) : c = ' ' := by
  unfold foldChar at mem
  split at mem
  · next folded found =>
    obtain ⟨n, nMem, same⟩ := List.mem_map.mp mem
    have large : ∀ row ∈ foldSequences, ∀ m ∈ row.2, m ≠ 0x20 := by decide +kernel
    exact absurd (eq_of_ofNat_eq_space same) (large _ (mem_of_foldSequence found) n nMem)
  · split at mem
    · next n found =>
      have large : 0x61 ≤ n := le_of_mapRows found (by decide +kernel)
      have small := eq_of_ofNat_eq_space (List.mem_singleton.mp mem).symm
      omega
    · have lowered := (List.mem_singleton.mp mem).symm
      have code : (lowerChar c).toNat = 0x20 := congrArg Char.toNat lowered
      exact (eq_of_toNat_lowerChar (by omega) (by omega)).symm.trans lowered

@[simp]
theorem space_mem_fold {cs : List Char} : ' ' ∈ fold cs ↔ ' ' ∈ cs := by
  rw [fold, List.mem_flatMap]
  constructor
  · rintro ⟨c, mem, folded⟩
    rwa [← eq_space_of_mem_foldChar folded]
  · intro mem
    exact ⟨' ', mem, by decide⟩

/-! ## Words -/

theorem words_ne_nil_of_cons {c : Char} (solid : isBlank c = false) (cs : List Char) :
    words (c :: cs) ≠ [] := by
  rw [words, if_neg (by simp [solid])]
  split
  · simp
  · cases words cs <;> simp [attach]

/-- The words on either side of a blank. -/
theorem words_append_cons {c : Char} (blank : isBlank c = true) (cs ds : List Char) :
    words (cs ++ c :: ds) = words cs ++ words ds := by
  induction cs with
  | nil => exact words_cons_of_isBlank blank ds
  | cons b cs ih =>
    rw [List.cons_append, words, words, ih]
    split
    · rfl
    · next solid =>
      cases cs with
      | nil => simp [blank, words]
      | cons d cs =>
        change (if (d :: cs).head?.all isBlank = true then _ else _) =
          (if (d :: cs).head?.all isBlank = true then _ else _) ++ _
        by_cases ends : (d :: cs).head?.all isBlank = true
        · rw [if_pos ends, if_pos ends]
          rfl
        · rw [if_neg ends, if_neg ends]
          obtain ⟨w, ws, first⟩ :=
            List.exists_cons_of_ne_nil (words_ne_nil_of_cons (by simpa using ends) cs)
          rw [first]
          rfl

theorem words_eq_nil_iff {cs : List Char} : words cs = [] ↔ ∀ c ∈ cs, isBlank c = true := by
  induction cs with
  | nil => simp [words]
  | cons c cs ih =>
    by_cases blank : isBlank c = true
    · rw [words_cons_of_isBlank blank, ih]
      simp [blank]
    · have solid : isBlank c = false := by simpa using blank
      simp [words_ne_nil_of_cons solid, blank]

theorem squeeze_eq_nil_iff {cs : List Char} : squeeze cs = [] ↔ words cs = [] := by
  constructor
  · intro empty
    by_contra some
    exact unwords_ne_nil (words_isWord cs) some empty
  · intro none
    rw [squeeze, none]
    rfl

/-- Squeezing brings in no characters but spaces between words. -/
theorem not_mem_squeeze_of_solid {cs : List Char} (solid : ∀ c ∈ cs, isBlank c = false) :
    ' ' ∉ squeeze cs := by
  by_cases empty : cs = []
  · subst empty
    simp [squeeze, words, unwords]
  · have tidy : squeeze cs = cs := Solid.tidy ⟨empty, solid⟩
    rw [tidy]
    exact fun mem => absurd (solid ' ' mem) (by decide)

theorem bounds_of_isAlphanum {c : Char} (letter : c.isAlphanum = true) :
    48 ≤ c.toNat ∧ c.toNat ≤ 122 := by
  have cases : (c.isUpper || c.isLower || c.isDigit) = true := letter
  rw [Bool.or_eq_true, Bool.or_eq_true] at cases
  rcases cases with (upper | lower) | digit
  · have within : 'A'.toNat ≤ c.toNat ∧ c.toNat ≤ 'Z'.toNat := of_decide_eq_true upper
    simp at within
    omega
  · have within : 'a'.toNat ≤ c.toNat ∧ c.toNat ≤ 'z'.toNat :=
      (Bool.and_eq_true_iff.mp lower).imp of_decide_eq_true of_decide_eq_true
    simp at within
    omega
  · have within : '0'.toNat ≤ c.toNat ∧ c.toNat ≤ '9'.toNat :=
      (Bool.and_eq_true_iff.mp digit).imp of_decide_eq_true of_decide_eq_true
    simp at within
    omega

/-- What stands above the controls and within ASCII is not blank, the space apart. -/
theorem isBlank_eq_false_of_toNat {c : Char} (above : 32 < c.toNat) (below : c.toNat < 128) :
    isBlank c = false := by
  simp only [isBlank, Bool.or_eq_false_iff, Bool.and_eq_false_iff, decide_eq_false_iff_not,
    beq_eq_false_iff_ne]
  omega

end Text

namespace Name

open Text

/-- Whether anything but blanks is in a name. -/
def Nonblank (name : String) : Prop :=
  key name ≠ ""

instance (name : String) : Decidable (Nonblank name) :=
  inferInstanceAs (Decidable (key name ≠ ""))

theorem nonblank_iff {name : String} : Nonblank name ↔ words name.toList ≠ [] := by
  rw [Nonblank, ne_eq, ne_eq, key, String.ofList_eq_empty_iff, not_iff_not, ← squeeze_eq_nil_iff]
  constructor
  · intro folded
    by_contra some
    exact fold_ne_nil some folded
  · intro empty
    rw [empty]
    rfl

theorem nonblank_of_mem {name : String} {c : Char} (mem : c ∈ name.toList)
    (solid : isBlank c = false) : Nonblank name := by
  rw [nonblank_iff, ne_eq, words_eq_nil_iff]
  intro blank
  simp [blank c mem] at solid

@[simp]
theorem key_display (name : String) : key (display name) = key name := by
  have again : squeeze (squeeze name.toList) = squeeze name.toList :=
    tidy_unwords (words_isWord name.toList)
  rw [key, key, display, String.toList_ofList, again]

theorem nonblank_of_display_ne {name : String} (ne : display name ≠ "") : Nonblank name := by
  rw [nonblank_iff, ne_eq, ← squeeze_eq_nil_iff]
  simpa [display] using ne

/-- There is a space in the key of a name put together from two. -/
theorem space_mem_key_of_nonblank {first second : String} (firstSays : Nonblank first)
    (secondSays : Nonblank second) : ' ' ∈ (key s!"{first} {second}").toList := by
  have split : words s!"{first} {second}".toList = words first.toList ++ words second.toList := by
    have parts : s!"{first} {second}".toList = first.toList ++ ' ' :: second.toList := by
      change (first ++ " " ++ second).toList = _
      simp
    rw [parts, words_append_cons (by decide)]
  rw [key, String.toList_ofList, space_mem_fold, squeeze, split,
    unwords_append (nonblank_iff.mp firstSays) (nonblank_iff.mp secondSays)]
  simp

/-- A name put together from two that say something says something. -/
theorem nonblank_append {first second : String} (firstSays : Nonblank first)
    (secondSays : Nonblank second) : Nonblank s!"{first} {second}" := by
  intro empty
  have space := space_mem_key_of_nonblank firstSays secondSays
  rw [empty] at space
  simp at space

/-! ## Names without blanks -/

/-- A name without blanks. -/
def Solid (name : String) : Prop :=
  ∀ c ∈ name.toList, isBlank c = false

instance (name : String) : Decidable (Solid name) :=
  inferInstanceAs (Decidable (∀ c ∈ name.toList, isBlank c = false))

theorem Solid.space_not_mem_key {name : String} (solid : Solid name) :
    ' ' ∉ (key name).toList := by
  rw [key, String.toList_ofList, space_mem_fold]
  exact not_mem_squeeze_of_solid solid

theorem mem_flatten_intersperse {α : Type} {between c : α} {ws : List (List α)}
    (mem : c ∈ (ws.intersperse [between]).flatten) : c = between ∨ ∃ w ∈ ws, c ∈ w := by
  obtain ⟨part, partMem, cMem⟩ := List.mem_flatten.mp mem
  induction ws with
  | nil => contradiction
  | cons w ws ih =>
    cases ws with
    | nil =>
      rw [List.intersperse_singleton, List.mem_singleton] at partMem
      exact .inr ⟨w, List.mem_cons_self, partMem ▸ cMem⟩
    | cons v ws =>
      rw [List.intersperse_cons_cons, List.mem_cons, List.mem_cons] at partMem
      rcases partMem with rfl | rfl | later
      · exact .inr ⟨part, List.mem_cons_self, cMem⟩
      · exact .inl (List.mem_singleton.mp cMem)
      · rcases ih (List.mem_flatten.mpr ⟨part, later, cMem⟩) later with here | ⟨u, uMem, inside⟩
        · exact .inl here
        · exact .inr ⟨u, List.mem_cons_of_mem _ uMem, inside⟩

end Name

end FactModel
