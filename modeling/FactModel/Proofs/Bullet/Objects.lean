import FactModel.Proofs.Bullet.Names
import FactModel.SemanticType
import Mathlib.Data.List.TakeWhile

/-!
# Attribute phrases that are read as written

An attribute phrase is a plain name, then perhaps a type in parentheses and an example in quotes.
Taking it apart gives these parts back: nothing in the name looks like the beginning of a type or of
an example, and nothing in quotes looks like a type at the end.
-/

namespace FactModel

namespace Text

theorem eq_of_sameLetter {p c : Char} (own : letterKey p = p.toNat) (positive : 0 < p.toNat)
    (below : p.toNat < 0x61) (same : sameLetter p c = true) : c = p := by
  have key : letterKey c = p.toNat := by
    rw [← own]
    exact (eq_of_beq same).symm
  exact Char.toNat_inj.mp (toNat_eq_of_letterKey key positive below)

/-- A character below the letters is spelled by itself alone. -/
theorem mem_of_spells {phrase cs : List Char} (spells : Spells phrase cs) {p : Char}
    (mem : p ∈ phrase) (own : letterKey p = p.toNat) (positive : 0 < p.toNat)
    (below : p.toNat < 0x61) : p ∈ cs := by
  induction spells with
  | nil => contradiction
  | cons same _ ih =>
    rcases List.mem_cons.mp mem with rfl | later
    · rw [eq_of_sameLetter own positive below same]
      exact List.mem_cons_self
    · exact List.mem_cons_of_mem _ (ih later)

/-- A reader that fails in all of a text is left to what follows it. -/
theorem search_append {α : Type} {read : List Char → Option α} {front tail : List Char}
    (fails : ∀ s, s ≠ [] → s <:+ front → read (s ++ tail) = none) :
    search read (front ++ tail) =
      (search read tail).map fun (before, found) => (front ++ before, found) := by
  induction front with
  | nil => simp
  | cons c front ih =>
    have here := fails (c :: front) (by simp) List.suffix_rfl
    rw [List.cons_append] at here ⊢
    rw [search, here, ih fun s ne isSuffix => fails s ne (isSuffix.trans (List.suffix_cons c front))]
    simp [Option.map_map, Function.comp_def]

theorem search_eq_none {α : Type} {read : List Char → Option α} {cs : List Char}
    (fails : ∀ s, s ≠ [] → s <:+ cs → read s = none) (empty : read [] = none) :
    search read cs = none := by
  have done := search_append (show ∀ s, s ≠ [] → s <:+ cs → read (s ++ []) = none by simpa using fails)
  simpa [search, empty] using done

/-- The blanks that may be taken off in front of a remainder. -/
theorem of_mem_stripBlanks {cs rest : List Char} (mem : rest ∈ stripBlanks cs) :
    ∃ blanks b, isBlank b = true ∧ (∀ c ∈ blanks, isBlank c = true) ∧
      cs = blanks ++ b :: rest := by
  induction cs with
  | nil => simp [stripBlanks] at mem
  | cons c cs ih =>
    rw [stripBlanks] at mem
    split at mem
    · next blank =>
      rcases List.mem_append.mp mem with later | here
      · obtain ⟨blanks, b, isBlank, all, rfl⟩ := ih later
        refine ⟨c :: blanks, b, isBlank, ?_, rfl⟩
        intro d dMem
        rcases List.mem_cons.mp dMem with rfl | dMem
        · exact blank
        · exact all d dMem
      · obtain rfl := List.mem_singleton.mp here
        exact ⟨[], c, blank, by simp, rfl⟩
    · contradiction

/-- In front of a text that does not end in a blank, blanks are taken off inside that text. -/
theorem of_mem_stripBlanks_append {cs tail rest : List Char} (ne : cs ≠ [])
    (ends : ∀ c ∈ cs.getLast?, isBlank c = false) (mem : rest ∈ stripBlanks (cs ++ tail)) :
    ∃ blanks b inside, isBlank b = true ∧ cs = blanks ++ b :: inside ∧ rest = inside ++ tail := by
  obtain ⟨blanks, b, blank, all, split⟩ := of_mem_stripBlanks mem
  rw [List.append_cons] at split
  rcases List.append_eq_append_iff.mp split with ⟨more, whole, -⟩ | ⟨inside, rfl, rfl⟩
  · obtain ⟨c, isLast⟩ := Option.isSome_iff_exists.mp (List.getLast?_isSome.mpr ne)
    have cMem : c ∈ blanks ++ [b] := whole ▸ List.mem_append_left more (List.mem_of_getLast? isLast)
    have cSolid := ends c isLast
    rcases List.mem_append.mp cMem with early | last
    · rw [all c early] at cSolid
      contradiction
    · rw [List.mem_singleton.mp last, blank] at cSolid
      contradiction
  · exact ⟨blanks, b, inside, blank, by simp, rfl⟩

theorem not_isBlank_getLast?_of_suffix {cs s : List Char} (tidy : Tidy cs) (isSuffix : s <:+ cs)
    (ne : s ≠ []) : ∀ c ∈ s.getLast?, isBlank c = false := by
  rw [← getLast?_of_suffix isSuffix ne]
  exact tidy.not_isBlank_getLast?

end Text

namespace Bullet

open FactModel.Text

namespace Object

/-! ## Examples -/

/-- A sample between quotes. -/
def enclosed (mark : Char) (sample : List Char) : List Char :=
  mark :: sample ++ [mark]

theorem not_mem_of_spells_samplePhrase {phrase : String} (isPhrase : phrase ∈ samplePhrases)
    {ds : List Char} (spells : Spells phrase.toList ds) : ',' ∉ ds := by
  intro mem
  obtain ⟨p, pMem, same⟩ := exists_of_spells spells mem
  have foreign : ∀ phrase ∈ samplePhrases, ∀ p ∈ phrase.toList, sameLetter p ',' = false := by
    decide
  rw [foreign phrase isPhrase p pMem] at same
  contradiction

/-- A phrase that announces an example begins with one of two words or holds a dot. -/
theorem samplePhrases_forms : ∀ phrase ∈ samplePhrases,
    '.' ∈ phrase.toList ∨ ∃ word ∈ ["for", "such"], (word.toList ++ [' ']) <+: phrase.toList := by
  decide

theorem stripAny_samplePhrases_eq_nil {front inside tail : List Char}
    (free : Free ["for", "such"] front) (noDot : '.' ∉ front) (within : ' ' :: inside <:+: front)
    (ends : tail = [] ∨ ∃ more, tail = ',' :: more) :
    stripAny samplePhrases (inside ++ tail) = [] := by
  rw [stripAny, List.filterMap_eq_nil_iff]
  intro phrase isPhrase
  rw [Option.eq_none_iff_forall_ne_some]
  intro rest found
  obtain ⟨ds, spells, whole⟩ := stripPhrase_eq_some_iff.mp found
  have noComma := not_mem_of_spells_samplePhrase isPhrase spells
  have isPrefix : ds <+: inside := by
    rcases List.append_eq_append_iff.mp whole with ⟨more, rfl, tailForm⟩ | ⟨more, rfl, -⟩
    · cases more with
      | nil => simp
      | cons c more =>
        rcases ends with rfl | ⟨later, rfl⟩
        · contradiction
        · cases tailForm
          simp at noComma
    · exact List.prefix_append ds more
  rcases samplePhrases_forms phrase isPhrase with dot | ⟨word, isWord, front⟩
  · have inDs := mem_of_spells spells dot (by decide) (by decide) (by decide)
    exact noDot (within.subset (List.mem_cons_of_mem _ (isPrefix.subset inDs)))
  · obtain ⟨back, phraseForm⟩ := front
    rw [← phraseForm] at spells
    obtain ⟨es, es', wordSpells, -, rfl⟩ := spells_append_iff.mp spells
    refine free word isWord ⟨' ' :: es, ?_, ?_⟩
    · exact spells_cons_iff.mpr ⟨' ', es, sameLetter_self ' ', wordSpells, rfl⟩
    · have early : ' ' :: es <+: ' ' :: inside :=
        (List.cons_prefix_cons.mpr ⟨rfl, (List.prefix_append es es').trans isPrefix⟩)
      exact early.isInfix.trans within

/-- Where no example is introduced: in a text without dots and commas in which no example is
announced, up to its end or to the next comma. -/
theorem sampleHere_eq_none {front tail : List Char} (tidy : Tidy front)
    (free : Free ["for", "such"] front) (noDot : '.' ∉ front) (noComma : ',' ∉ front)
    (ends : tail = [] ∨ ∃ more, tail = ',' :: more) {s : List Char} (ne : s ≠ [])
    (isSuffix : s <:+ front) : sampleHere (s ++ tail) = none := by
  -- A comma cannot be taken off in front.
  have noStart : stripAny [","] (s ++ tail) = [] := by
    obtain ⟨c, s, rfl⟩ := List.exists_cons_of_ne_nil ne
    have other : sameLetter ',' c = false := by
      rw [Bool.eq_false_iff]
      intro same
      obtain rfl := eq_of_sameLetter (by decide) (by decide) (by decide) same
      exact noComma (isSuffix.subset List.mem_cons_self)
    change ([","].filterMap fun phrase : String => stripPhrase phrase.toList (c :: s ++ tail)) = []
    simp [stripPhrase, other]
  have none : ((stripOptional [","] (s ++ tail)).flatMap stripBlanks).flatMap
      (stripAny samplePhrases) = [] := by
    rw [stripOptional, noStart, List.nil_append, List.flatMap_singleton, List.flatMap_eq_nil_iff]
    intro x mem
    obtain ⟨blanks, b, inside, blank, rfl, rfl⟩ := of_mem_stripBlanks_append ne
      (not_isBlank_getLast?_of_suffix tidy isSuffix ne) mem
    obtain rfl : b = ' ' := tidy.eq_of_isBlank (isSuffix.subset (by simp)) blank
    refine stripAny_samplePhrases_eq_nil free noDot ?_ ends
    exact (List.IsSuffix.trans ⟨blanks, rfl⟩ isSuffix).isInfix
  rw [sampleHere, none]
  rfl

theorem sampleHere_eq_some {text : List Char} (tidy : Tidy text) (ne : text ≠ []) :
    sampleHere (", for example ".toList ++ text) = some text := by
  have announced : (((stripOptional [","] (", for example ".toList ++ text)).flatMap
      stripBlanks).flatMap (stripAny samplePhrases)).flatMap (stripOptional [":", ","]) =
        [' ' :: text] :=
    rfl
  have noBlank : stripBlanks text = [] := by
    obtain ⟨c, text, rfl⟩ := List.exists_cons_of_ne_nil ne
    rw [stripBlanks, tidy.not_isBlank_head? c rfl]
    rfl
  have noBreak : ∀ c ∈ text, decide (c ≠ '\n') = true := by
    intro c mem
    rw [decide_eq_true_eq]
    rintro rfl
    have := tidy.eq_of_isBlank mem (by decide)
    contradiction
  have whole : toLineEnd text = some text := by
    have taken : text.takeWhile (· ≠ '\n') = text := List.takeWhile_eq_self_iff.mpr noBreak
    have dropped : text.dropWhile (· ≠ '\n') = [] := List.dropWhile_eq_nil_iff.mpr noBreak
    simp only [toLineEnd, taken, dropped]
    simp [ne]
  rw [sampleHere, announced, List.flatMap_singleton, stripBlanks, noBlank]
  simp [isBlank, whole]

/-! ## Types -/

/-- Where no type begins: in a text without parentheses. -/
theorem typeHere_eq_none {front tail : List Char} (tidy : Tidy front) (noParen : '(' ∉ front)
    {s : List Char} (ne : s ≠ []) (isSuffix : s <:+ front) : typeHere (s ++ tail) = none := by
  have ends := not_isBlank_getLast?_of_suffix tidy isSuffix ne
  have remains : s.dropWhile isBlank ≠ [] := by
    intro nothing
    obtain ⟨c, isLast⟩ := Option.isSome_iff_exists.mp (List.getLast?_isSome.mpr ne)
    have blank := List.dropWhile_eq_nil_iff.mp nothing c (List.mem_of_getLast? isLast)
    rw [ends c isLast] at blank
    contradiction
  have inside : (s ++ tail).dropWhile isBlank = s.dropWhile isBlank ++ tail := by
    rw [List.dropWhile_append]
    simp [remains]
  obtain ⟨c, rest, form⟩ := List.exists_cons_of_ne_nil remains
  have noStart : c ≠ '(' := by
    rintro rfl
    apply noParen
    apply isSuffix.subset
    apply (List.dropWhile_suffix isBlank).subset
    rw [form]
    exact List.mem_cons_self
  rw [typeHere, inside, form]
  split
  · next same =>
    cases same
    contradiction
  · rfl

/-- A type stands at the end of its text. -/
theorem getLast?_of_typeHere {cs : List Char} (found : (typeHere cs).isSome = true) :
    cs.getLast? = some ')' ∨ cs.getLast? = some '\n' := by
  unfold typeHere at found
  split at found
  · next inner opened =>
    extract_lets isInner written rest at found
    split at found
    · next closed =>
      have isSuffix : rest <:+ cs := by
        refine (List.dropWhile_suffix _).trans ((List.suffix_cons '(' inner).trans ?_)
        rw [← opened]
        exact List.dropWhile_suffix _
      rcases closed.2 with isEnd | isEnd
      · rw [getLast?_of_suffix isSuffix (by simp [isEnd]), isEnd]
        exact .inl rfl
      · rw [getLast?_of_suffix isSuffix (by simp [isEnd]), isEnd]
        exact .inr rfl
    · contradiction
  · contradiction

/-- No type stands at the end of a quoted sample. -/
theorem search_typeHere_enclosed {mark : Char} (isQuote : mark ∈ quoteMarks) (sample : List Char) :
    search typeHere (enclosed mark sample) = none := by
  apply search_eq_none
  · intro s ne isSuffix
    rw [← Option.not_isSome_iff_eq_none]
    intro found
    have isLast : s.getLast? = some mark := by
      rw [← getLast?_of_suffix isSuffix ne, enclosed, List.getLast?_append]
      rfl
    have others : ∀ mark ∈ quoteMarks, mark ≠ ')' ∧ mark ≠ '\n' := by decide
    obtain ⟨notParen, notBreak⟩ := others mark isQuote
    rcases getLast?_of_typeHere found with paren | lineFeed
    · exact notParen (Option.some.inj (isLast.symm.trans paren))
    · exact notBreak (Option.some.inj (isLast.symm.trans lineFeed))
  · rfl

/-! ## Whole phrases -/

/-- The type behind a name. -/
def typeSuffix : Option SemanticType → List Char
  | none => []
  | some type => " (".toList ++ type.name.toList ++ ")".toList

/-- The example behind a name and its type: a sample with its quotes. -/
def sampleSuffix : Option (Char × List Char) → List Char
  | none => []
  | some (mark, sample) => ", for example ".toList ++ enclosed mark sample

theorem sampleSuffix_none : sampleSuffix none = [] :=
  rfl

theorem sampleSuffix_some (quoted : Char × List Char) :
    sampleSuffix (some quoted) = ", for example ".toList ++ enclosed quoted.1 quoted.2 :=
  rfl

/-- A sample that is read as it is written between quotes. -/
def Quotable (quoted : Char × List Char) : Prop :=
  quoted.1 ∈ quoteMarks ∧ Tidy (enclosed quoted.1 quoted.2)

theorem unquote_enclosed {mark : Char} {sample : List Char} (quotable : Quotable (mark, sample)) :
    unquote (enclosed mark sample) = sample := by
  obtain ⟨isQuote, tidy⟩ := quotable
  have known : mark ∈ quoteMarks := isQuote
  have isLast : (sample ++ [mark]).getLast? = some mark := List.getLast?_concat ..
  have front : (sample ++ [mark]).dropLast = sample := List.dropLast_concat
  rw [unquote, tidy.trim_eq, enclosed, List.cons_append]
  cases sample with
  | nil => simp [known]
  | cons c sample =>
    simp only [List.cons_append] at isLast front ⊢
    simp [known, isLast, front]

theorem typeSuffix_tidy (type : Option SemanticType) {name : List Char} (tidy : Tidy name)
    (ne : name ≠ []) : Tidy (name ++ typeSuffix type) := by
  cases type with
  | none => rwa [typeSuffix, List.append_nil]
  | some type =>
    have written : Tidy ('(' :: type.name.toList ++ [')']) := by cases type <;> decide
    exact tidy.join written ne (by simp)

theorem free_typeSuffix {taboo : List String} (known : taboo ⊆ keyWords) {name : List Char}
    (free : Free taboo (name ++ [' '])) (type : Option SemanticType) :
    Free taboo (name ++ typeSuffix type) := by
  cases type with
  | none =>
    rw [typeSuffix, List.append_nil]
    exact free.mono (List.prefix_append name [' ']).isInfix
  | some type =>
    have typeFree : Free keyWords (' ' :: '(' :: type.name.toList ++ [')']) := by
      cases type <;> decide
    exact Free.join (fun word mem => noBlanks_keyWords word (known mem)) free
      (typeFree.of_subset known)

theorem search_typeHere {name : String} (plain : Plain name) (type : Option SemanticType) :
    search typeHere (name.toList ++ typeSuffix type) =
      type.map fun t => (name.toList, t.name.toList) := by
  have noParen : '(' ∉ name.toList := fun mem => plain.unmarked '(' mem (by decide)
  rw [search_append fun s ne isSuffix => typeHere_eq_none plain.tidy noParen ne isSuffix]
  cases type with
  | none => rfl
  | some type =>
    have found : search typeHere (typeSuffix (some type)) = some ([], type.name.toList) := by
      cases type <;> decide
    rw [found]
    simp

theorem search_sampleHere {name : String} (plain : Plain name) (type : Option SemanticType)
    {sample : Option (Char × List Char)} (quotable : ∀ quoted ∈ sample, Quotable quoted) :
    search sampleHere (name.toList ++ typeSuffix type ++ sampleSuffix sample) =
      sample.map fun quoted =>
        (name.toList ++ typeSuffix type, enclosed quoted.1 quoted.2) := by
  have others : ∀ c ∈ name.toList ++ typeSuffix type, c ≠ '.' ∧ c ≠ ',' := by
    intro c mem
    rcases List.mem_append.mp mem with inName | inType
    · constructor
      · rintro rfl
        exact plain.unmarked '.' inName (by decide)
      · rintro rfl
        exact plain.unmarked ',' inName (by decide)
    · have inTypes : ∀ type, ∀ c ∈ typeSuffix type, c ≠ '.' ∧ c ≠ ',' := by
        rintro (_ | type)
        · simp [typeSuffix]
        · cases type <;> decide
      exact inTypes type c inType
  have ends : sampleSuffix sample = [] ∨ ∃ more, sampleSuffix sample = ',' :: more := by
    cases sample with
    | none => exact .inl rfl
    | some quoted => exact .inr ⟨_, rfl⟩
  have free := free_typeSuffix (by decide : ["for", "such"] ⊆ keyWords)
    (plain.free_append.of_subset (by decide)) type
  rw [search_append fun s ne isSuffix =>
    sampleHere_eq_none (typeSuffix_tidy type plain.tidy plain.toList_ne_nil) free
      (fun mem => (others _ mem).1 rfl) (fun mem => (others _ mem).2 rfl) ends ne isSuffix]
  cases sample with
  | none => rfl
  | some quoted =>
    obtain ⟨mark, sample⟩ := quoted
    have found := sampleHere_eq_some (quotable (mark, sample) rfl).2 (by simp [enclosed])
    change (search sampleHere (',' :: (" for example ".toList ++ enclosed mark sample))).map _ = _
    change sampleHere (',' :: (" for example ".toList ++ enclosed mark sample)) = _ at found
    rw [search, found]
    simp

/-- An attribute phrase: a name, its type and an example. -/
def phrase (name : String) (type : Option SemanticType) (sample : Option (Char × List Char)) :
    List Char :=
  name.toList ++ typeSuffix type ++ sampleSuffix sample

/-- An attribute phrase is taken apart into what it was put together from. -/
theorem ofChars_eq {name : String} (plain : Plain name) (type : Option SemanticType)
    {sample : Option (Char × List Char)} (quotable : ∀ quoted ∈ sample, Quotable quoted) :
    ofChars (phrase name type sample) =
      { name
        declaredType := type.map (·.name)
        sample := sample.map fun quoted => String.ofList quoted.2 } := by
  rw [phrase]
  have trimmed : ∀ type : SemanticType, String.ofList (trim type.name.toList) = type.name := by
    intro type
    cases type <;> decide
  have typed := search_typeHere plain type
  have exampleFound := search_sampleHere plain type quotable
  cases sample with
  | none =>
    have whole : name.toList ++ typeSuffix type ++ sampleSuffix none =
        name.toList ++ typeSuffix type := List.append_nil _
    unfold ofChars
    rw [exampleFound]
    simp only [Option.map_none, Option.bind_none, whole, typed]
    cases type with
    | none => simp [typeSuffix, plain.display_eq]
    | some type => simp [plain.display_eq, trimmed]
  | some quoted =>
    obtain ⟨mark, sample⟩ := quoted
    have isQuotable := quotable (mark, sample) rfl
    have sampleRead := unquote_enclosed isQuotable
    unfold ofChars
    rw [exampleFound]
    simp only [Option.map_some, Option.bind_some, typed, isQuotable.2.trim_eq,
      search_typeHere_enclosed isQuotable.1]
    cases type with
    | none => simp [typeSuffix, plain.display_eq, sampleRead]
    | some type => simp [plain.display_eq, trimmed, sampleRead]

end Object

end Bullet

end FactModel
