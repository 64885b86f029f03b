import FactModel.Proofs.Text.Keys
import Mathlib.Data.List.Nodup

/-!
# Plurals and their singulars

A plural is formed on the end of a name, and one of the names of which it may be the plural spells
the name again.  A reader who knows the name, and no other that is spelled like one of them, gets
back to it.
-/

namespace FactModel

namespace Text

/-! ## The ends of lower-cased texts -/

/-- Letters that are each the lower-case counterpart of one other letter, their ASCII capital. -/
def pairedLetters : List Char :=
  "acehnrtvy".toList

theorem eq_of_lowerChar_eq {c p : Char} (paired : p ∈ pairedLetters) (lowered : lowerChar c = p) :
    c = p ∨ c.toNat + 0x20 = p.toNat := by
  unfold lowerChar at lowered
  split at lowered
  · next n found =>
    have code : (Char.ofNat n).toNat = p.toNat := congrArg Char.toNat lowered
    have positive : ∀ p ∈ pairedLetters, 0 < p.toNat := by decide
    have isCode : n = p.toNat := by
      rcases toNat_ofNat_cases n with valid | invalid
      · omega
      · exact absurd (invalid.symm.trans code) (positive p paired).ne
    rcases exists_row_of_mapRows found with ⟨row, mem, first, last, image⟩
    have only : ∀ p ∈ pairedLetters, ∀ row ∈ lowerRows, row.2.2.2 ≤ p.toNat →
        p.toNat ≤ row.2.2.2 + (row.2.1 - row.1) → row.2.2.2 = row.1 + 0x20 := by
      decide +kernel
    have shift := only p paired row mem (by omega) (by omega)
    exact .inr (by omega)
  · exact .inl lowered

/-- What a character is lower-cased to ends in: what it is mapped to by itself, but for two
characters, of which no letter of English comes. -/
def Lowered (c last : Char) : Prop :=
  if c = 'Σ' ∨ c = 'İ' then 0x80 ≤ last.toNat else last = lowerChar c

theorem Lowered.unique {c last other : Char} (lowered : Lowered c last)
    (otherLowered : Lowered c other) (small : last.toNat < 0x80) : other = last := by
  unfold Lowered at lowered otherLowered
  split at lowered
  · omega
  · next plain =>
    rw [if_neg plain] at otherLowered
    rw [otherLowered, lowered]

/-- A text is lower-cased up to its end, where an ending of plain lower-case letters is left as it
is. -/
theorem exists_lowerFrom_append (ending : List Char)
    (plain : ∀ c ∈ ending, c ≠ 'Σ' ∧ c ≠ 'İ' ∧ lowerChar c = c) (passed cs : List Char) (c : Char) :
    ∃ front last, lowerFrom passed (cs ++ c :: ending) = front ++ last :: ending ∧
      Lowered c last := by
  have kept (passed : List Char) : lowerFrom passed ending = ending := by
    induction ending generalizing passed with
    | nil => rfl
    | cons d ending ih =>
      rcases List.forall_mem_cons.mp plain with ⟨⟨notSigma, notDotted, same⟩, later⟩
      rw [lowerFrom, if_neg notSigma, if_neg notDotted, same, ih later]
      rfl
  induction cs generalizing passed with
  | nil =>
    rw [List.nil_append, lowerFrom, kept]
    by_cases sigma : c = 'Σ'
    · subst sigma
      refine ⟨[], _, by rw [if_pos rfl]; rfl, ?_⟩
      rw [Lowered, if_pos (.inl rfl)]
      split <;> decide
    · by_cases dotted : c = 'İ'
      · subst dotted
        refine ⟨['i'], '\u0307', rfl, ?_⟩
        rw [Lowered, if_pos (.inr rfl)]
        decide
      · refine ⟨[], lowerChar c, by rw [if_neg sigma, if_neg dotted]; rfl, ?_⟩
        rw [Lowered, if_neg (by simp [sigma, dotted])]
  | cons d cs ih =>
    rcases ih (d :: passed) with ⟨front, last, form, lowered⟩
    rw [List.cons_append, lowerFrom, form]
    exact ⟨_ ++ front, last, (List.append_assoc ..).symm, lowered⟩

/-- The end of the last word may be replaced. -/
theorem Tidy.replace_last {front ending : List Char} {c : Char} (tidy : Tidy (front ++ [c]))
    (solid : Solid ending) : Tidy (front ++ ending) := by
  rcases tidy.cases_last (by simp) with ⟨w, wSolid, whole | ⟨before, beforeNe, beforeTidy, whole⟩⟩
  · by_cases none : front = []
    · subst none
      exact solid.tidy
    · apply Solid.tidy
      apply Solid.append _ solid
      exact ⟨none, fun d mem => wSolid.2 d (whole ▸ List.mem_append_left _ mem)⟩
  · obtain ⟨w, d, rfl⟩ : ∃ u d, w = u ++ [d] :=
      ⟨_, _, (List.dropLast_append_getLast wSolid.1).symm⟩
    rw [← List.cons_append, ← List.append_assoc] at whole
    have split := (List.append_inj' whole rfl).1
    subst split
    rw [List.append_assoc, List.cons_append]
    apply beforeTidy.join _ beforeNe (by simp [solid.1])
    apply Solid.tidy
    by_cases none : w = []
    · subst none
      exact solid
    · apply Solid.append _ solid
      exact ⟨none, fun e mem => wSolid.2 e (List.mem_append_left _ mem)⟩

end Text

namespace Name

open Text

/-! ## Plurals -/

theorem endsInAny_eq_true_iff {endings : List String} {cs : List Char} :
    endsInAny endings cs = true ↔ ∃ ending ∈ endings, ending.toList <:+ cs := by
  simp only [endsInAny, List.any_eq_true, List.isSuffixOf_iff_suffix]

@[simp]
theorem replaceEnd_append (front back : List Char) (ending : String) :
    replaceEnd (front ++ back) back.length ending = String.ofList (front ++ ending.toList) := by
  simp [replaceEnd]

theorem endsIn_lower_append {ending : List Char} (ne : ending ≠ [])
    (plain : ∀ c ∈ ending, c ≠ 'Σ' ∧ c ≠ 'İ' ∧ lowerChar c = c) (cs : List Char) :
    ending <:+ lower (cs ++ ending) := by
  obtain ⟨c, ending, rfl⟩ := List.exists_cons_of_ne_nil ne
  rcases List.forall_mem_cons.mp plain with ⟨⟨notSigma, notDotted, same⟩, later⟩
  rcases exists_lowerFrom_append ending later [] cs c with ⟨front, last, form, lowered⟩
  rw [Lowered, if_neg (by simp [notSigma, notDotted]), same] at lowered
  subst lowered
  exact ⟨front, form.symm⟩

/-- The plural of a name, by its ending. -/
theorem plural_cases {name : String} (ne : name.toList ≠ []) :
    (∃ front c, name.toList = front ++ [c] ∧ front ≠ [] ∧ (c = 'y' ∨ c = 'Y') ∧
        (plural name).toList = front ++ "ies".toList) ∨
      (plural name).toList = name.toList ++ "es".toList ∨
      ((plural name).toList = name.toList ++ "s".toList ∧ ¬['s'] <:+ lower name.toList) := by
  obtain ⟨front, c, form⟩ : ∃ front c, name.toList = front ++ [c] :=
    ⟨_, _, (List.dropLast_append_getLast ne).symm⟩
  unfold plural
  extract_lets cs low
  have whole (ending : String) :
      (replaceEnd cs 0 ending).toList = name.toList ++ ending.toList := by
    simp [replaceEnd, cs]
  split
  · next empty => exact absurd (List.isEmpty_iff.mp empty) ne
  · split
    · next isY =>
      rw [Bool.and_eq_true, Bool.and_eq_true, decide_eq_true_eq] at isY
      rcases isY with ⟨⟨ends, long⟩, -⟩
      rcases endsInAny_eq_true_iff.mp ends with ⟨_, isY, isSuffix⟩
      rw [List.mem_singleton] at isY
      subst isY
      rcases exists_lowerFrom_append [] (by simp) [] front c with
        ⟨lowFront, last, lowForm, lowered⟩
      rw [show low = lowFront ++ [last] by rw [← lowForm, ← form]; rfl] at isSuffix
      have isLast : last = 'y' := by
        have same := getLast?_of_suffix isSuffix (by decide)
        rw [List.getLast?_concat] at same
        exact Option.some.inj same
      have isLetter : c = 'y' ∨ c = 'Y' := by
        subst isLast
        unfold Lowered at lowered
        split at lowered
        · exact absurd lowered (by decide)
        · rcases eq_of_lowerChar_eq (by decide) lowered.symm with same | capital
          · exact .inl same
          · exact .inr (Char.toNat_inj.mp (Nat.add_right_cancel (m := 0x20) capital))
      refine .inl ⟨front, c, form, ?_, isLetter, ?_⟩
      · rintro rfl
        simp [cs, form] at long
      · rw [show cs = front ++ [c] from form]
        have replaced := congrArg String.toList (replaceEnd_append front [c] "ies")
        exact replaced.trans String.toList_ofList
    · split
      · exact .inr (.inl (whole "es"))
      · next others =>
        refine .inr (.inr ⟨whole "s", ?_⟩)
        intro isSuffix
        exact others (endsInAny_eq_true_iff.mpr ⟨"s", by decide, isSuffix⟩)

/-- A plural is formed by an ending on the name or on the front of it. -/
theorem exists_plural {name : String} (ne : name.toList ≠ []) :
    ∃ front ending, (plural name).toList = front ++ ending ∧ front <+: name.toList ∧
      ending ∈ ["ies".toList, "es".toList, "s".toList] := by
  rcases plural_cases ne with ⟨front, c, form, -, -, isPlural⟩ | isPlural | ⟨isPlural, -⟩
  · exact ⟨front, _, isPlural, form ▸ List.prefix_append front [c], by simp⟩
  · exact ⟨_, _, isPlural, List.prefix_rfl, by simp⟩
  · exact ⟨_, _, isPlural, List.prefix_rfl, by simp⟩

theorem tidy_plural {name : String} (tidy : Tidy name.toList) (ne : name.toList ≠ []) :
    Tidy (plural name).toList := by
  rcases plural_cases ne with ⟨front, c, form, -, -, isPlural⟩ | isPlural | ⟨isPlural, -⟩
  · rw [isPlural]
    exact (form ▸ tidy).replace_last ⟨by decide, by decide⟩
  · rw [isPlural]
    exact tidy.append (by decide)
  · rw [isPlural]
    exact tidy.append (by decide)

/-! ## Candidates -/

theorem endsInAny_lower_plural {name ending : String} {front : List Char}
    (isPlural : (plural name).toList = front ++ ending.toList) (ne : ending.toList ≠ [])
    (plain : ∀ c ∈ ending.toList, c ≠ 'Σ' ∧ c ≠ 'İ' ∧ lowerChar c = c) :
    endsInAny [ending] (lower (plural name).toList) = true := by
  rw [isPlural]
  exact endsInAny_eq_true_iff.mpr ⟨ending, by simp, endsIn_lower_append ne plain front⟩

/-- One of the names of which the plural of a name may be the plural spells the name. -/
theorem exists_candidate {name : String} (tidy : Tidy name.toList) (ne : name.toList ≠ []) :
    ∃ candidate ∈ singularCandidates (plural name), key candidate = key name := by
  have positive := List.length_pos_iff.mpr ne
  have self (ending : List Char) :
      replaceEnd (name.toList ++ ending) ending.length "" = name := by
    simp
  rcases plural_cases ne with ⟨front, c, form, frontNe, isLetter, isPlural⟩ | isPlural |
    ⟨isPlural, other⟩
  · have ends := endsInAny_lower_plural isPlural (by decide) (by decide +kernel)
    have long : 3 < (plural name).toList.length := by
      have := List.length_pos_iff.mpr frontNe
      rw [isPlural, List.length_append]
      simp
      omega
    refine ⟨replaceEnd (plural name).toList 3 "y", by simp [singularCandidates, ends, long], ?_⟩
    have spelled : (replaceEnd (plural name).toList 3 "y").toList = front ++ ['y'] := by
      rw [isPlural]
      have replaced := congrArg String.toList (replaceEnd_append front "ies".toList "y")
      exact replaced.trans String.toList_ofList
    have tidyY : Tidy (front ++ ['y']) := (form ▸ tidy).replace_last ⟨by decide, by decide⟩
    have sameFold : foldChar c = foldChar 'y' := by rcases isLetter with rfl | rfl <;> decide
    rw [key, key, spelled, tidyY, tidy, form, fold, fold, List.flatMap_append, List.flatMap_append]
    simp [sameFold]
  · have ends := endsInAny_lower_plural isPlural (by decide) (by decide +kernel)
    have long : 2 < (plural name).toList.length := by
      rw [isPlural, List.length_append]
      simp
      omega
    refine ⟨replaceEnd (plural name).toList 2 "", by simp [singularCandidates, ends, long], ?_⟩
    rw [isPlural]
    exact congrArg key (self "es".toList)
  · have ends := endsInAny_lower_plural isPlural (by decide) (by decide +kernel)
    have long : 1 < (plural name).toList.length := by
      rw [isPlural, List.length_append]
      simp
      omega
    have single : endsInAny ["ss"] (lower (plural name).toList) = false := by
      rw [← Bool.not_eq_true, endsInAny_eq_true_iff]
      rintro ⟨_, isSs, isSuffix⟩
      rw [List.mem_singleton] at isSs
      subst isSs
      -- The letter in front of the last would be lower-cased to the same where it is the last.
      obtain ⟨front, c, form⟩ : ∃ front c, name.toList = front ++ [c] :=
        ⟨_, _, (List.dropLast_append_getLast ne).symm⟩
      rcases exists_lowerFrom_append "s".toList (by decide +kernel) [] front c with
        ⟨pluralFront, last, pluralForm, lowered⟩
      rcases exists_lowerFrom_append [] (by simp) [] front c with
        ⟨lowFront, lastAlone, lowForm, loweredAlone⟩
      rw [isPlural, form, List.append_assoc, List.singleton_append, lower, pluralForm] at isSuffix
      have isS : last = 's' := by
        rcases isSuffix with ⟨before, whole⟩
        have ends : before ++ ['s'] ++ ['s'] = pluralFront ++ [last] ++ ['s'] := by
          simpa using whole
        have inner := (List.append_inj' ends rfl).1
        exact (List.singleton_inj.mp (List.append_inj' inner rfl).2).symm
      subst isS
      rw [lowered.unique loweredAlone (by decide)] at lowForm
      apply other
      rw [form, lower, lowForm]
      exact List.suffix_append ..
    refine ⟨replaceEnd (plural name).toList 1 "",
      by simp [singularCandidates, ends, long, single], ?_⟩
    rw [isPlural]
    exact congrArg key (self "s".toList)

/-! ## Known names -/

section Known

variable {known : List String} {name : String} (distinct : (known.map key).Nodup)
  (isKnown : name ∈ known)

include distinct isKnown

theorem lastKnown?_of_key {candidate : String} (same : key candidate = key name) :
    lastKnown? known candidate = some name := by
  have there : (known.reverse.find? (key · == key candidate)).isSome = true :=
    List.find?_isSome.mpr ⟨name, List.mem_reverse.mpr isKnown, by simp [same]⟩
  rcases Option.isSome_iff_exists.mp there with ⟨other, found⟩
  have mem := List.mem_reverse.mp (List.mem_of_find?_eq_some found)
  have spelled : key other = key name :=
    (eq_of_beq (List.find?_some found :)).trans same
  rw [lastKnown?, found, List.inj_on_of_nodup_map distinct mem isKnown spelled]

/-- A name is found as the singular of a noun when it is spelled by one of the candidates, and no
other known name is. -/
theorem singular_eq {noun : String} (tidy : Tidy noun.toList)
    (spelled : ∃ candidate ∈ singularCandidates noun, key candidate = key name)
    (only : ∀ other ∈ known, ∀ candidate ∈ singularCandidates noun,
      key other = key candidate → other = name) : singular known noun = name := by
  have display : display noun = noun := by rw [Name.display, tidy, String.ofList_toList]
  have found : (singularCandidates noun).findSome? (lastKnown? known) = some name := by
    rcases spelled with ⟨candidate, mem, same⟩
    have there : ((singularCandidates noun).findSome? (lastKnown? known)).isSome = true := by
      rw [List.findSome?_isSome_iff]
      exact ⟨candidate, mem, by rw [lastKnown?_of_key distinct isKnown same]; rfl⟩
    rcases Option.isSome_iff_exists.mp there with ⟨other, found⟩
    rcases List.exists_of_findSome?_eq_some found with ⟨first, firstMem, isOther⟩
    have otherMem := List.mem_reverse.mp (List.mem_of_find?_eq_some isOther)
    rw [found, only other otherMem first firstMem (eq_of_beq (List.find?_some isOther :))]
  rw [singular]
  simp only [display, found, Option.getD_some]

/-- A known name is its own singular. -/
theorem singular_self (tidy : Tidy name.toList) : singular known name = name := by
  have display : display name = name := by rw [Name.display, tidy, String.ofList_toList]
  rw [singular]
  simp only [display]
  rw [singularCandidates, List.append_assoc, List.append_assoc, List.singleton_append,
    List.findSome?_cons, lastKnown?_of_key distinct isKnown rfl]
  rfl

/-- A known name is the singular of its plural, when no other known name has the key of one of the
names of which that plural may be the plural. -/
theorem singular_plural (displayed : display name = name) (ne : name ≠ "")
    (only : ∀ other ∈ known, other ≠ name →
      key other ∉ (singularCandidates (plural name)).map key) :
    singular known (plural name) = name := by
  have tidy : Tidy name.toList := by
    have squeezed := congrArg String.toList displayed
    rwa [display, String.toList_ofList] at squeezed
  have some : name.toList ≠ [] := by simpa using ne
  apply singular_eq distinct isKnown (tidy_plural tidy some) (exists_candidate tidy some)
  intro other mem candidate isCandidate same
  by_contra differs
  apply only other mem differs
  rw [same]
  exact List.mem_map_of_mem isCandidate

end Known

/-- Names with all endings that matter, in several cases and scripts. -/
def variousNames : List String :=
  ["CATEGORY", "Toy", "Bus", "Box", "Quartz", "Church", "Wish", "ΟΔΟΣ", "Straße", "Sales Order"]

theorem singular_plural_various :
    variousNames.map plural =
      ["CATEGORies", "Toys", "Buses", "Boxes", "Quartzes", "Churches", "Wishes", "ΟΔΟΣs", "Straßes",
        "Sales Orders"] ∧
      ∀ name ∈ variousNames, singular variousNames (plural name) = name := by
  have distinct : (variousNames.map key).Nodup := by decide +kernel
  have shown : ∀ name ∈ variousNames, display name = name ∧ name ≠ "" ∧
      ∀ other ∈ variousNames, other ≠ name →
        key other ∉ (singularCandidates (plural name)).map key := by
    decide +kernel
  refine ⟨by decide +kernel, ?_⟩
  intro name mem
  rcases shown name mem with ⟨displayed, ne, only⟩
  exact singular_plural distinct mem displayed ne only

end Name

end FactModel
