import FactModel.Text.Phrase
import Mathlib.Data.List.Forall2
import Mathlib.Data.List.Infix

/-!
# Where phrases stand

A phrase stands where its letters stand, in any case.  Every phrase that the patterns cut at begins
with a word between blanks, on which it hinges.  A text in which none of these words stands is not
cut at all, and one that is followed by such a phrase is cut right there.
-/

namespace FactModel.Text

/-! ## Letters -/

theorem exists_row_of_mapRows {n m : Nat} {rows : List (Nat × Nat × Nat × Nat)}
    (found : mapRows n rows = some m) :
    ∃ row ∈ rows, row.1 ≤ n ∧ n ≤ row.2.1 ∧ m = row.2.2.2 + (n - row.1) := by
  induction rows with
  | nil => contradiction
  | cons row rest ih =>
    obtain ⟨first, last, step, target⟩ := row
    simp only [mapRows] at found
    split at found
    · contradiction
    · next notBelow =>
      split at found
      · next here =>
        cases found
        exact ⟨_, List.mem_cons_self, Nat.le_of_not_lt notBelow, here.1, rfl⟩
      · rcases ih found with ⟨row, mem, bounds⟩
        exact ⟨row, List.mem_cons_of_mem _ mem, bounds⟩

theorem le_of_mapRows {n m least : Nat} {rows : List (Nat × Nat × Nat × Nat)}
    (found : mapRows n rows = some m) (targets : ∀ row ∈ rows, least ≤ row.2.2.2) : least ≤ m := by
  rcases exists_row_of_mapRows found with ⟨row, mem, -, -, image⟩
  rw [image]
  exact Nat.le_trans (targets row mem) (Nat.le_add_right _ _)

/-- A number is the code of the character it makes, unless it makes none. -/
theorem toNat_ofNat_cases (n : Nat) : (Char.ofNat n).toNat = n ∨ (Char.ofNat n).toNat = 0 := by
  by_cases valid : n.isValidChar
  · rw [Char.ofNat, dif_pos valid]
    exact .inl rfl
  · rw [Char.ofNat, dif_neg valid]
    exact .inr rfl

/-- All that the lower-case counterpart of a character may be below the letters is itself. -/
theorem eq_of_toNat_lowerChar {c : Char} (positive : 0 < (lowerChar c).toNat)
    (below : (lowerChar c).toNat < 0x61) : lowerChar c = c := by
  unfold lowerChar at *
  split
  · next n found =>
    have large : 0x61 ≤ n := le_of_mapRows found (by decide +kernel)
    simp only [found] at positive below
    rcases toNat_ofNat_cases n with same | zero <;> omega
  · rfl

/-- Below the letters a character stands for itself alone. -/
theorem toNat_eq_of_letterKey {c : Char} {n : Nat} (key : letterKey c = n) (positive : 0 < n)
    (below : n < 0x61) : c.toNat = n := by
  simp only [letterKey] at key
  split at key
  · next group found =>
    have mem := List.mem_of_find?_eq_some found
    have heads : ∀ group ∈ letterVariants, ∀ m, 0x61 ≤ group.headD m := by
      intro group mem m
      have first : ∀ group ∈ letterVariants, group.head?.any (0x61 ≤ ·) = true := by decide
      have := first group mem
      cases group with
      | nil => simp at this
      | cons head rest => simpa using this
    have := heads group mem (lowerChar c).toNat
    omega
  · subst key
    rw [eq_of_toNat_lowerChar positive below]

theorem eq_blank_of_sameLetter {c : Char} (same : sameLetter ' ' c = true) : c = ' ' := by
  have key : letterKey c = 0x20 := by
    have blank : letterKey ' ' = 0x20 := by decide
    rw [← blank]
    exact (eq_of_beq same).symm
  have := toNat_eq_of_letterKey key (by decide) (by decide)
  exact Char.toNat_inj.mp this

/-! ## Spelling -/

/-- Two texts of the same letters, in any case. -/
def Spells (phrase cs : List Char) : Prop :=
  List.Forall₂ (fun p c => sameLetter p c = true) phrase cs

@[simp]
theorem spells_nil_iff {cs : List Char} : Spells [] cs ↔ cs = [] :=
  List.forall₂_nil_left_iff

theorem spells_cons_iff {p : Char} {ps cs : List Char} :
    Spells (p :: ps) cs ↔ ∃ c ds, sameLetter p c = true ∧ Spells ps ds ∧ cs = c :: ds :=
  List.forall₂_cons_left_iff

theorem spells_append_iff {ps ps' cs : List Char} :
    Spells (ps ++ ps') cs ↔ ∃ ds ds', Spells ps ds ∧ Spells ps' ds' ∧ cs = ds ++ ds' := by
  induction ps generalizing cs with
  | nil => simp
  | cons p ps ih =>
    simp only [List.cons_append, spells_cons_iff, ih]
    constructor
    · rintro ⟨c, _, same, ⟨ds, ds', spells, spells', rfl⟩, rfl⟩
      exact ⟨c :: ds, ds', ⟨c, ds, same, spells, rfl⟩, spells', rfl⟩
    · rintro ⟨_, ds', ⟨c, ds, same, spells, rfl⟩, spells', rfl⟩
      exact ⟨c, ds ++ ds', same, ⟨ds, ds', spells, spells', rfl⟩, rfl⟩

/-- A phrase is stripped where it stands at the front. -/
theorem stripPhrase_eq_some_iff {phrase cs rest : List Char} :
    stripPhrase phrase cs = some rest ↔ ∃ ds, Spells phrase ds ∧ cs = ds ++ rest := by
  induction phrase generalizing cs with
  | nil => simp [stripPhrase]
  | cons p ps ih =>
    cases cs with
    | nil => simp [stripPhrase, spells_cons_iff]
    | cons c cs =>
      rw [stripPhrase]
      constructor
      · intro found
        split at found
        · next same =>
          obtain ⟨ds, spells, rfl⟩ := ih.mp found
          exact ⟨c :: ds, spells_cons_iff.mpr ⟨c, ds, same, spells, rfl⟩, rfl⟩
        · contradiction
      · rintro ⟨_, spells, whole⟩
        obtain ⟨d, ds, same, restSpells, rfl⟩ := spells_cons_iff.mp spells
        cases whole
        rw [if_pos same]
        exact ih.mpr ⟨ds, restSpells, rfl⟩

/-- A blank stands for a blank and nothing else. -/
theorem not_mem_of_spells {phrase cs : List Char} (spells : Spells phrase cs)
    (noBlank : ' ' ∉ phrase) : ' ' ∉ cs := by
  induction spells with
  | nil => simp
  | cons same _ ih =>
    rw [List.mem_cons, not_or] at noBlank ⊢
    constructor
    · rintro rfl
      rw [sameLetter_comm] at same
      exact noBlank.1 (eq_blank_of_sameLetter same).symm
    · exact ih noBlank.2

/-! ## Words that stand by themselves -/

/-- A word between blanks. -/
def standing (word : String) : List Char :=
  ' ' :: word.toList ++ [' ']

/-- Whether a phrase stands somewhere in a text. -/
def Occurs (phrase cs : List Char) : Prop :=
  ∃ ds, Spells phrase ds ∧ ds <:+: cs

theorem Occurs.mono {phrase cs ds : List Char} (occurs : Occurs phrase cs) (within : cs <:+: ds) :
    Occurs phrase ds := by
  obtain ⟨found, spells, isInfix⟩ := occurs
  exact ⟨found, spells, isInfix.trans within⟩

theorem Occurs.of_prefix {phrase more cs : List Char} (front : phrase <+: more)
    (occurs : Occurs more cs) : Occurs phrase cs := by
  obtain ⟨rest, rfl⟩ := front
  obtain ⟨_, spells, isInfix⟩ := occurs
  obtain ⟨ds, ds', frontSpells, -, rfl⟩ := spells_append_iff.mp spells
  exact ⟨ds, frontSpells, (List.prefix_append ds ds').isInfix.trans isInfix⟩

theorem occurs_iff_tails {phrase cs : List Char} :
    Occurs phrase cs ↔ ∃ tail ∈ cs.tails, (stripPhrase phrase tail).isSome = true := by
  constructor
  · rintro ⟨ds, spells, front, rest, rfl⟩
    refine ⟨ds ++ rest, ?_, ?_⟩
    · rw [List.mem_tails, List.append_assoc]
      exact List.suffix_append ..
    · rw [stripPhrase_eq_some_iff.mpr ⟨ds, spells, rfl⟩]
      rfl
  · rintro ⟨tail, isTail, found⟩
    obtain ⟨rest, found⟩ := Option.isSome_iff_exists.mp found
    obtain ⟨ds, spells, rfl⟩ := stripPhrase_eq_some_iff.mp found
    rw [List.mem_tails] at isTail
    exact ⟨ds, spells, (List.prefix_append ds rest).isInfix.trans isTail.isInfix⟩

instance (phrase cs : List Char) : Decidable (Occurs phrase cs) :=
  decidable_of_iff _ occurs_iff_tails.symm

/-- None of some words stands by itself in a text. -/
def Free (taboo : List String) (cs : List Char) : Prop :=
  ∀ word ∈ taboo, ¬Occurs (standing word) cs

instance (taboo : List String) (cs : List Char) : Decidable (Free taboo cs) :=
  inferInstanceAs (Decidable (∀ word ∈ taboo, ¬Occurs (standing word) cs))

theorem Free.mono {taboo : List String} {cs ds : List Char} (free : Free taboo ds)
    (within : cs <:+: ds) : Free taboo cs := by
  intro word mem occurs
  exact free word mem (occurs.mono within)

theorem Free.of_subset {taboo fewer : List String} {cs : List Char} (free : Free taboo cs)
    (subset : fewer ⊆ taboo) : Free fewer cs := by
  intro word mem
  exact free word (subset mem)

/-- Each phrase begins with one of some words that hold no blanks. -/
def Hinged (taboo phrases : List String) : Prop :=
  ∀ phrase ∈ phrases, ∃ word ∈ taboo, ' ' ∉ word.toList ∧ standing word <+: phrase.toList

instance (taboo phrases : List String) : Decidable (Hinged taboo phrases) :=
  inferInstanceAs (Decidable (∀ phrase ∈ phrases, ∃ word ∈ taboo,
    ' ' ∉ word.toList ∧ standing word <+: phrase.toList))

/-- A word that holds no blank ends in front of the next one. -/
theorem prefix_of_prefix_append {word : String} (noBlank : ' ' ∉ word.toList)
    {front tail ds : List Char} (spells : Spells (word.toList ++ [' ']) ds)
    (isPrefix : ds <+: front ++ ' ' :: tail) : ds <+: front ++ [' '] := by
  have split : front ++ ' ' :: tail = (front ++ [' ']) ++ tail := by simp
  rw [split] at isPrefix
  rcases List.prefix_or_prefix_of_prefix isPrefix (List.prefix_append (front ++ [' ']) tail) with
    short | long
  · exact short
  · -- Otherwise the blank behind the front would stand inside the word.
    obtain ⟨within, last, withinSpells, lastSpells, rfl⟩ := spells_append_iff.mp spells
    obtain ⟨c, nothing, same, empty, rfl⟩ := spells_cons_iff.mp lastSpells
    obtain rfl := spells_nil_iff.mp empty
    obtain rfl := eq_blank_of_sameLetter same
    rcases List.prefix_concat_iff.mp long with whole | inside
    · exact whole ▸ List.prefix_rfl
    · exact absurd (inside.subset (by simp)) (not_mem_of_spells withinSpells noBlank)

/-- What stands at a blank and begins with a word stands in front of the next blank. -/
theorem occurs_of_prefix_append {word : String} (noBlank : ' ' ∉ word.toList)
    {front tail ds : List Char} (ne : front ≠ []) (spells : Spells (standing word) ds)
    (isPrefix : ds <+: front ++ ' ' :: tail) : Occurs (standing word) (front ++ [' ']) := by
  obtain ⟨first, front, rfl⟩ := List.exists_cons_of_ne_nil ne
  obtain ⟨blank, within, -, withinSpells, rfl⟩ := spells_cons_iff.mp spells
  rw [List.cons_append, List.cons_prefix_cons] at isPrefix
  obtain ⟨rfl, isPrefix⟩ := isPrefix
  have short := prefix_of_prefix_append noBlank withinSpells isPrefix
  refine ⟨_, spells, List.IsPrefix.isInfix ?_⟩
  rw [List.cons_append, List.cons_prefix_cons]
  exact ⟨rfl, short⟩

/-! ## Cutting -/

theorem of_mem_cuts {phrases : List String} {cs front rest : List Char}
    (mem : (front, rest) ∈ cuts phrases cs) :
    front ≠ [] ∧ ∃ phrase ∈ phrases, ∃ ds, Spells phrase.toList ds ∧ cs = front ++ ds ++ rest := by
  induction cs generalizing front with
  | nil => simp [cuts] at mem
  | cons c cs ih =>
    rw [cuts, List.mem_append, List.mem_map, List.mem_map] at mem
    rcases mem with ⟨_, stripped, same⟩ | ⟨⟨later, _⟩, isCut, same⟩
    · cases same
      obtain ⟨phrase, mem, found⟩ := List.mem_filterMap.mp stripped
      obtain ⟨ds, spells, rfl⟩ := stripPhrase_eq_some_iff.mp found
      exact ⟨by simp, phrase, mem, ds, spells, rfl⟩
    · cases same
      obtain ⟨-, phrase, mem, ds, spells, rfl⟩ := ih isCut
      exact ⟨by simp, phrase, mem, ds, spells, rfl⟩

/-- A text is not cut when none of the words on which the phrases hinge stands behind its first
character. -/
theorem cuts_cons_eq_nil {taboo phrases : List String} (hinged : Hinged taboo phrases)
    {cs : List Char} (free : Free taboo cs) (c : Char) : cuts phrases (c :: cs) = [] := by
  rw [List.eq_nil_iff_forall_not_mem]
  rintro ⟨front, rest⟩ mem
  obtain ⟨ne, phrase, isPhrase, ds, spells, whole⟩ := of_mem_cuts mem
  obtain ⟨word, isTaboo, -, isPrefix⟩ := hinged phrase isPhrase
  obtain ⟨first, front, rfl⟩ := List.exists_cons_of_ne_nil ne
  rw [List.cons_append, List.cons_append, List.cons.injEq] at whole
  refine free word isTaboo (Occurs.of_prefix isPrefix ⟨ds, spells, ?_⟩)
  exact ⟨front, rest, whole.2.symm⟩

theorem cuts_eq_nil {taboo phrases : List String} (hinged : Hinged taboo phrases)
    {cs : List Char} (free : Free taboo cs) : cuts phrases cs = [] := by
  cases cs with
  | nil => rfl
  | cons c cs => exact cuts_cons_eq_nil hinged (free.mono (List.suffix_cons c cs).isInfix) c

/-- In front of a blank a text is not cut when none of the words on which the phrases hinge stands
there. -/
theorem cuts_append {taboo phrases : List String} (hinged : Hinged taboo phrases)
    {front : List Char} (ne : front ≠ []) (free : Free taboo (front ++ [' '])) (tail : List Char) :
    cuts phrases (front ++ ' ' :: tail) =
      (stripAny phrases (' ' :: tail)).map (fun rest => (front, rest)) ++
        (cuts phrases (' ' :: tail)).map fun (between, rest) => (front ++ between, rest) := by
  induction front with
  | nil => contradiction
  | cons c front ih =>
    rw [List.cons_append, cuts]
    by_cases last : front = []
    · subst last
      rfl
    · have none : stripAny phrases (front ++ ' ' :: tail) = [] := by
        rw [stripAny, List.filterMap_eq_nil_iff]
        intro phrase isPhrase
        rw [Option.eq_none_iff_forall_ne_some]
        intro rest found
        obtain ⟨word, isTaboo, noBlank, more, isPrefix⟩ := hinged phrase isPhrase
        obtain ⟨_, spells, whole⟩ := stripPhrase_eq_some_iff.mp found
        rw [← isPrefix] at spells
        obtain ⟨ds, ds', wordSpells, -, rfl⟩ := spells_append_iff.mp spells
        have occurs := occurs_of_prefix_append noBlank last wordSpells
          (whole ▸ (List.prefix_append ds ds').trans (List.prefix_append _ rest))
        exact free word isTaboo (occurs.mono (List.suffix_cons c _).isInfix)
      rw [none, ih last (free.mono (List.suffix_cons c _).isInfix)]
      simp [List.map_map, Function.comp_def]

/-! ## Putting free texts together -/

/-- A word stands on either side of a blank, since it holds none itself. -/
theorem Free.join {taboo : List String} (noBlanks : ∀ word ∈ taboo, ' ' ∉ word.toList)
    {front back : List Char} (frontFree : Free taboo (front ++ [' ']))
    (backFree : Free taboo (' ' :: back)) : Free taboo (front ++ ' ' :: back) := by
  rintro word mem ⟨ds, spells, before, after, whole⟩
  rw [List.append_assoc] at whole
  rcases List.append_eq_append_iff.mp whole with ⟨between, rfl, rest⟩ | ⟨between, rfl, rest⟩
  · by_cases none : between = []
    · subst none
      exact backFree word mem ⟨ds, spells, ⟨[], after, rest⟩⟩
    · have isPrefix : ds <+: between ++ ' ' :: back := ⟨after, rest⟩
      have occurs := occurs_of_prefix_append (noBlanks word mem) none spells isPrefix
      refine frontFree word mem (occurs.mono ?_)
      rw [List.append_assoc]
      exact (List.suffix_append before _).isInfix
  · exact backFree word mem ⟨ds, spells, ⟨between, after, by rw [List.append_assoc, ← rest]⟩⟩

theorem getLast?_of_suffix {cs s : List Char} (isSuffix : s <:+ cs) (ne : s ≠ []) :
    cs.getLast? = s.getLast? := by
  obtain ⟨before, rfl⟩ := isSuffix
  rw [List.getLast?_append, Option.or_of_isSome (by simpa using ne)]

theorem infix_of_not_mem {α : Type} {ds front back : List α} {c : α} (notIn : c ∉ ds)
    (within : ds <:+: front ++ c :: back) : ds <:+: front ∨ ds <:+: back := by
  obtain ⟨before, after, whole⟩ := within
  rw [List.append_assoc] at whole
  rcases List.append_eq_append_iff.mp whole with ⟨between, rfl, rest⟩ | ⟨between, rfl, rest⟩
  · left
    rcases List.append_eq_append_iff.mp rest with ⟨more, rfl, -⟩ | ⟨more, rfl, tail⟩
    · exact ⟨before, more, by simp⟩
    · cases more with
      | nil => exact ⟨before, [], by simp⟩
      | cons d more =>
        cases tail
        simp at notIn
  · right
    cases between with
    | nil =>
      cases ds with
      | nil => exact List.nil_infix
      | cons d ds =>
        cases rest
        simp at notIn
    | cons d between =>
      cases rest
      exact ⟨between, after, by simp⟩

theorem exists_of_spells {phrase cs : List Char} (spells : Spells phrase cs) {c : Char}
    (mem : c ∈ cs) : ∃ p ∈ phrase, sameLetter p c = true := by
  induction spells with
  | nil => contradiction
  | cons same _ ih =>
    rcases List.mem_cons.mp mem with rfl | later
    · exact ⟨_, List.mem_cons_self, same⟩
    · obtain ⟨p, pMem, pSame⟩ := ih later
      exact ⟨p, List.mem_cons_of_mem _ pMem, pSame⟩

theorem exists_spelling {phrase cs : List Char} (spells : Spells phrase cs) {p : Char}
    (mem : p ∈ phrase) : ∃ c ∈ cs, sameLetter p c = true := by
  induction spells with
  | nil => contradiction
  | cons same _ ih =>
    rcases List.mem_cons.mp mem with rfl | later
    · exact ⟨_, List.mem_cons_self, same⟩
    · obtain ⟨c, cMem, cSame⟩ := ih later
      exact ⟨c, List.mem_cons_of_mem _ cMem, cSame⟩

/-- No word stands in a text that lacks one of its letters. -/
theorem free_of_lacks {taboo : List String} {cs : List Char}
    (lacks : ∀ word ∈ taboo, ∃ p ∈ word.toList, ∀ c ∈ cs, sameLetter p c = false) :
    Free taboo cs := by
  rintro word mem ⟨ds, spells, within⟩
  obtain ⟨p, pMem, differs⟩ := lacks word mem
  obtain ⟨c, cMem, same⟩ := exists_spelling spells (p := p) (by simp [standing, pMem])
  rw [differs c (within.subset cMem)] at same
  contradiction

/-- A word stands on either side of a character that is none of its letters and no blank. -/
theorem Free.cut {taboo : List String} {c : Char}
    (foreign : ∀ word ∈ taboo, ∀ p ∈ standing word, sameLetter p c = false)
    {front back : List Char} (frontFree : Free taboo front) (backFree : Free taboo back) :
    Free taboo (front ++ c :: back) := by
  rintro word mem ⟨ds, spells, within⟩
  have notIn : c ∉ ds := by
    intro cMem
    obtain ⟨p, pMem, same⟩ := exists_of_spells spells cMem
    rw [foreign word mem p pMem] at same
    contradiction
  rcases infix_of_not_mem notIn within with inFront | inBack
  · exact frontFree word mem ⟨ds, spells, inFront⟩
  · exact backFree word mem ⟨ds, spells, inBack⟩

end FactModel.Text
