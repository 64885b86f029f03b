import FactModel.Text.Blank

/-!
# Tidy texts

A text is tidy when squeezing leaves it as it is: single spaces between its words and none around
them.  Tidy texts stay tidy when they are put together, with or without a space between them.
-/

namespace FactModel.Text

/-- Whether all characters of a text have a property is decided on the text, not on the type of
characters, which is finite as well. -/
instance decidableForallChars (cs : List Char) (p : Char → Prop) [DecidablePred p] :
    Decidable (∀ c ∈ cs, p c) :=
  List.decidableBAll p cs

/-- The same for the first character of a text, or the last, if there is one. -/
instance decidableForallChar? (c? : Option Char) (p : Char → Prop) [DecidablePred p] :
    Decidable (∀ c ∈ c?, p c) :=
  Option.decidableForallMem c?

/-- A text with single spaces between its words and none around them. -/
def Tidy (cs : List Char) : Prop :=
  squeeze cs = cs

instance (cs : List Char) : Decidable (Tidy cs) :=
  inferInstanceAs (Decidable (squeeze cs = cs))

/-- A nonempty text without blanks. -/
def Solid (w : List Char) : Prop :=
  w ≠ [] ∧ ∀ c ∈ w, isBlank c = false

@[simp]
theorem unwords_singleton (w : List Char) : unwords [w] = w := by
  simp [unwords]

theorem unwords_cons (w : List Char) {ws : List (List Char)} (ne : ws ≠ []) :
    unwords (w :: ws) = w ++ ' ' :: unwords ws := by
  obtain ⟨v, vs, rfl⟩ := List.exists_cons_of_ne_nil ne
  simp [unwords]

theorem unwords_append {vs ws : List (List Char)} (vsNe : vs ≠ []) (wsNe : ws ≠ []) :
    unwords (vs ++ ws) = unwords vs ++ ' ' :: unwords ws := by
  induction vs with
  | nil => contradiction
  | cons v vs ih =>
    by_cases last : vs = []
    · subst last
      rw [unwords_singleton]
      exact unwords_cons v wsNe
    · rw [List.cons_append, unwords_cons v (by simp [last]), ih last, unwords_cons v last]
      simp

/-! ## Words -/

@[simp]
theorem words_cons_of_isBlank {c : Char} (blank : isBlank c = true) (cs : List Char) :
    words (c :: cs) = words cs := by
  rw [words, if_pos blank]

/-- A word ends where a blank follows. -/
theorem words_solid_append {w : List Char} (solid : Solid w) {cs : List Char}
    (ends : cs.head?.all isBlank = true) : words (w ++ cs) = w :: words cs := by
  obtain ⟨ne, noBlanks⟩ := solid
  induction w with
  | nil => contradiction
  | cons c w ih =>
    have cSolid := noBlanks c List.mem_cons_self
    rw [List.cons_append, words, cSolid]
    cases w with
    | nil => simp [ends]
    | cons d w =>
      have dSolid := noBlanks d (by simp)
      rw [ih (by simp) fun e mem => noBlanks e (List.mem_cons_of_mem _ mem)]
      simp [dSolid, attach]

/-- Words put together are found again. -/
theorem words_unwords {ws : List (List Char)} (solid : ∀ w ∈ ws, Solid w) :
    words (unwords ws) = ws := by
  induction ws with
  | nil => rfl
  | cons w ws ih =>
    have wSolid := solid w List.mem_cons_self
    by_cases last : ws = []
    · subst last
      simpa [unwords, words] using words_solid_append wSolid (rfl : ([] : List Char).head?.all isBlank = true)
    · rw [unwords_cons w last, words_solid_append wSolid (by simp; decide),
        words_cons_of_isBlank (by decide), ih fun v mem => solid v (List.mem_cons_of_mem _ mem)]

theorem tidy_unwords {ws : List (List Char)} (solid : ∀ w ∈ ws, Solid w) : Tidy (unwords ws) := by
  rw [Tidy, squeeze, words_unwords solid]

/-- A tidy text is made of words. -/
theorem Tidy.exists_words {cs : List Char} (tidy : Tidy cs) :
    ∃ ws, (∀ w ∈ ws, Solid w) ∧ cs = unwords ws :=
  ⟨words cs, words_isWord cs, tidy.symm⟩

theorem Solid.tidy {w : List Char} (solid : Solid w) : Tidy w := by
  rw [← unwords_singleton w]
  apply tidy_unwords
  simpa using solid

theorem unwords_ne_nil {ws : List (List Char)} (solid : ∀ w ∈ ws, Solid w) (ne : ws ≠ []) :
    unwords ws ≠ [] := by
  obtain ⟨w, ws, rfl⟩ := List.exists_cons_of_ne_nil ne
  have wNe := (solid w List.mem_cons_self).1
  by_cases last : ws = []
  · subst last
    simpa [unwords] using wNe
  · rw [unwords_cons w last]
    simp

/-! ## Putting texts together -/

/-- Tidy texts with a space between them are tidy. -/
theorem Tidy.join {cs ds : List Char} (csTidy : Tidy cs) (dsTidy : Tidy ds) (csNe : cs ≠ [])
    (dsNe : ds ≠ []) : Tidy (cs ++ ' ' :: ds) := by
  obtain ⟨vs, vsSolid, rfl⟩ := csTidy.exists_words
  obtain ⟨ws, wsSolid, rfl⟩ := dsTidy.exists_words
  rw [← unwords_append]
  · apply tidy_unwords
    intro w mem
    rcases List.mem_append.mp mem with old | new
    · exact vsSolid w old
    · exact wsSolid w new
  · rintro rfl
    exact csNe rfl
  · rintro rfl
    exact dsNe rfl

/-- A tidy text is a word in front of which there may be others. -/
theorem Tidy.cases_last {cs : List Char} (tidy : Tidy cs) (ne : cs ≠ []) :
    ∃ w, Solid w ∧ (cs = w ∨ ∃ front, front ≠ [] ∧ Tidy front ∧ cs = front ++ ' ' :: w) := by
  obtain ⟨ws, solid, rfl⟩ := tidy.exists_words
  rcases List.eq_nil_or_concat ws with rfl | ⟨front, w, rfl⟩
  · exact absurd rfl ne
  · have wSolid := solid w (by simp)
    have frontSolid : ∀ v ∈ front, Solid v := fun v mem => solid v (by simp [mem])
    refine ⟨w, wSolid, ?_⟩
    by_cases only : front = []
    · subst only
      exact .inl (by simp [unwords])
    · right
      refine ⟨unwords front, unwords_ne_nil frontSolid only, tidy_unwords frontSolid, ?_⟩
      rw [List.concat_eq_append, unwords_append only (by simp), unwords_singleton]

/-- A tidy text is a word behind which there may be others. -/
theorem Tidy.cases_first {cs : List Char} (tidy : Tidy cs) (ne : cs ≠ []) :
    ∃ w, Solid w ∧ (cs = w ∨ ∃ back, back ≠ [] ∧ Tidy back ∧ cs = w ++ ' ' :: back) := by
  obtain ⟨ws, solid, rfl⟩ := tidy.exists_words
  cases ws with
  | nil => exact absurd rfl ne
  | cons w back =>
    have wSolid := solid w (by simp)
    have backSolid : ∀ v ∈ back, Solid v := fun v mem => solid v (by simp [mem])
    refine ⟨w, wSolid, ?_⟩
    by_cases only : back = []
    · subst only
      exact .inl (by simp [unwords])
    · right
      exact ⟨unwords back, unwords_ne_nil backSolid only, tidy_unwords backSolid,
        unwords_cons w only⟩

theorem Solid.append {v w : List Char} (vSolid : Solid v) (wSolid : Solid w) : Solid (v ++ w) := by
  constructor
  · simp [vSolid.1]
  · intro c mem
    rcases List.mem_append.mp mem with inV | inW
    · exact vSolid.2 c inV
    · exact wSolid.2 c inW

/-- Tidy texts right behind each other are tidy. -/
theorem Tidy.append {cs ds : List Char} (csTidy : Tidy cs) (dsTidy : Tidy ds) :
    Tidy (cs ++ ds) := by
  by_cases csNe : cs = []
  · subst csNe
    exact dsTidy
  by_cases dsNe : ds = []
  · subst dsNe
    rw [List.append_nil]
    exact csTidy
  obtain ⟨v, vSolid, vForm⟩ := csTidy.cases_last csNe
  obtain ⟨w, wSolid, wForm⟩ := dsTidy.cases_first dsNe
  have both := (vSolid.append wSolid).tidy
  have bothNe := (vSolid.append wSolid).1
  -- The last word of the first text and the first word of the second become one word.
  have fromWord : Tidy (v ++ ds) ∧ v ++ ds ≠ [] := by
    rcases wForm with rfl | ⟨back, backNe, backTidy, rfl⟩
    · exact ⟨both, bothNe⟩
    · rw [← List.append_assoc]
      exact ⟨both.join backTidy bothNe backNe, by simp [vSolid.1]⟩
  rcases vForm with rfl | ⟨front, frontNe, frontTidy, rfl⟩
  · exact fromWord.1
  · rw [List.append_assoc, List.cons_append]
    exact frontTidy.join fromWord.1 frontNe fromWord.2

/-! ## Blanks in tidy texts -/

/-- The only blanks of a tidy text are spaces. -/
theorem Tidy.eq_of_isBlank {cs : List Char} (tidy : Tidy cs) {c : Char} (mem : c ∈ cs)
    (blank : isBlank c = true) : c = ' ' := by
  obtain ⟨ws, solid, rfl⟩ := tidy.exists_words
  clear tidy
  induction ws with
  | nil => contradiction
  | cons w ws ih =>
    have notInWord : c ∉ w := by
      intro inWord
      rw [(solid w List.mem_cons_self).2 c inWord] at blank
      contradiction
    by_cases last : ws = []
    · subst last
      rw [unwords_singleton] at mem
      contradiction
    · rw [unwords_cons w last, List.mem_append, List.mem_cons] at mem
      rcases mem with inWord | rfl | later
      · contradiction
      · rfl
      · exact ih (fun v vMem => solid v (List.mem_cons_of_mem _ vMem)) later

theorem Tidy.not_isLineBreak {cs : List Char} (tidy : Tidy cs) {c : Char} (mem : c ∈ cs) :
    isLineBreak c = false := by
  rw [← Bool.not_eq_true]
  intro breaks
  cases tidy.eq_of_isBlank mem (isBlank_of_isLineBreak breaks)
  contradiction

theorem Tidy.not_isBlank_head? {cs : List Char} (tidy : Tidy cs) :
    ∀ c ∈ cs.head?, isBlank c = false := by
  by_cases empty : cs = []
  · simp [empty]
  · obtain ⟨w, ⟨wNe, solid⟩, form⟩ := tidy.cases_first empty
    obtain ⟨d, w, rfl⟩ := List.exists_cons_of_ne_nil wNe
    have dSolid := solid d List.mem_cons_self
    rcases form with rfl | ⟨back, -, -, rfl⟩ <;> simpa using dSolid

theorem Tidy.not_isBlank_getLast? {cs : List Char} (tidy : Tidy cs) :
    ∀ c ∈ cs.getLast?, isBlank c = false := by
  by_cases empty : cs = []
  · simp [empty]
  · obtain ⟨w, ⟨wNe, solid⟩, form⟩ := tidy.cases_last empty
    intro c isLast
    apply solid c
    apply List.mem_of_getLast?
    rcases form with rfl | ⟨front, -, -, rfl⟩
    · exact isLast
    · rw [List.append_cons, List.getLast?_append, Option.or_of_isSome (by simpa using wNe)] at isLast
      exact isLast

/-! ## Trimming -/

theorem dropWhile_eq_self {p : Char → Bool} {cs : List Char}
    (begins : ∀ c ∈ cs.head?, p c = false) : cs.dropWhile p = cs := by
  cases cs with
  | nil => rfl
  | cons c cs => rw [List.dropWhile_cons_of_neg (by simp [begins c rfl])]

theorem mem_dropWhile {p : Char → Bool} {cs : List Char} {c : Char} (mem : c ∈ cs)
    (kept : p c = false) : c ∈ cs.dropWhile p := by
  rw [← List.takeWhile_append_dropWhile (p := p) (l := cs)] at mem
  rcases List.mem_append.mp mem with dropped | here
  · have isDropped := List.all_eq_true.mp List.all_takeWhile c dropped
    rw [kept] at isDropped
    contradiction
  · exact here

theorem mem_trimEnd {p : Char → Bool} {cs : List Char} {c : Char} (mem : c ∈ cs)
    (kept : p c = false) : c ∈ trimEnd p cs :=
  List.mem_reverse.mpr (mem_dropWhile (List.mem_reverse.mpr mem) kept)

theorem mem_trim {cs : List Char} {c : Char} (mem : c ∈ cs) (solid : isBlank c = false) :
    c ∈ trim cs :=
  mem_trimEnd (mem_dropWhile mem solid) solid

theorem trimEnd_eq_self {p : Char → Bool} {cs : List Char}
    (ends : ∀ c ∈ cs.getLast?, p c = false) : trimEnd p cs = cs := by
  rw [trimEnd, dropWhile_eq_self, List.reverse_reverse]
  rwa [List.head?_reverse]

theorem trimEnd_append {p : Char → Bool} {cs : List Char} {c : Char} (ends : cs.getLast? = some c)
    (kept : p c = false) (rest : List Char) : trimEnd p (cs ++ rest) = cs ++ trimEnd p rest := by
  have same : cs.reverse.dropWhile p = cs.reverse := by
    refine dropWhile_eq_self ?_
    rw [List.head?_reverse, ends]
    intro d isLast
    cases isLast
    exact kept
  rw [trimEnd, trimEnd, List.reverse_append, List.dropWhile_append, same]
  split
  · next nothing =>
    rw [List.isEmpty_iff.mp nothing, List.reverse_reverse, List.reverse_nil, List.append_nil]
  · rw [List.reverse_append, List.reverse_reverse]

/-- The end marks behind a text are dropped up to the text, when it ends in none itself. -/
theorem trimEnd_concat {p : Char → Bool} {cs : List Char} {c : Char} (drops : p c = true)
    (ends : ∀ c ∈ cs.getLast?, p c = false) : trimEnd p (cs ++ [c]) = cs := by
  have same : trimEnd p (cs ++ [c]) = trimEnd p cs := by
    simp [trimEnd, drops]
  rw [same, trimEnd_eq_self ends]

theorem trim_eq_self {cs : List Char} (begins : ∀ c ∈ cs.head?, isBlank c = false)
    (ends : ∀ c ∈ cs.getLast?, isBlank c = false) : trim cs = cs := by
  rw [trim, dropWhile_eq_self begins, trimEnd_eq_self ends]

theorem exists_trim_append (cs : List Char) : ∃ back, trim cs ++ back = cs.dropWhile isBlank := by
  have isFront : trim cs <+: cs.dropWhile isBlank := by
    rw [trim, trimEnd, ← List.reverse_suffix, List.reverse_reverse]
    exact List.dropWhile_suffix _
  exact isFront

theorem mem_of_mem_trim {cs : List Char} {c : Char} (mem : c ∈ trim cs) : c ∈ cs := by
  obtain ⟨back, cut⟩ := exists_trim_append cs
  exact (List.dropWhile_suffix isBlank).subset (cut ▸ List.mem_append_left back mem)

theorem not_isBlank_head?_trim (cs : List Char) : ∀ c ∈ (trim cs).head?, isBlank c = false := by
  intro c first
  obtain ⟨back, cut⟩ := exists_trim_append cs
  have solid := List.head?_dropWhile_not isBlank cs
  rw [← cut, List.head?_append, Option.mem_def.mp first] at solid
  exact solid

theorem not_isBlank_getLast?_trim (cs : List Char) :
    ∀ c ∈ (trim cs).getLast?, isBlank c = false := by
  intro c last
  rw [trim, trimEnd, List.getLast?_reverse] at last
  have solid := List.head?_dropWhile_not isBlank (cs.dropWhile isBlank).reverse
  rw [Option.mem_def.mp last] at solid
  exact solid

theorem Tidy.trim_eq {cs : List Char} (tidy : Tidy cs) : trim cs = cs :=
  trim_eq_self tidy.not_isBlank_head? tidy.not_isBlank_getLast?

end FactModel.Text
