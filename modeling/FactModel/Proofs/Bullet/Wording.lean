import FactModel.Proofs.Bullet.Sentences
import FactModel.Proofs.Text.Plurals

/-!
# Ordinary names

A name is ordinary when it is made of words of letters, none of which is a word of the patterns.
Such a name can stand anywhere in a bullet, and its plural wherever a plural stands.  Samples and
patterns without blanks and quotes can stand between quotes.
-/

namespace FactModel

namespace Text

/-- Words in which none of some others is spelled hold none of them. -/
theorem free_unwords {taboo : List String} (noBlanks : ∀ word ∈ taboo, ' ' ∉ word.toList)
    {ws : List (List Char)} (ne : ws ≠ []) (solid : ∀ w ∈ ws, ' ' ∉ w)
    (others : ∀ w ∈ ws, ∀ word ∈ taboo, ¬Spells word.toList w) :
    Free taboo (' ' :: unwords ws ++ [' ']) := by
  -- A word between two blanks is the only one to stand there.
  have single {w : List Char} (mem : w ∈ ws) : Free taboo (' ' :: w ++ [' ']) := by
    rintro word isTaboo ⟨ds, spells, before, after, whole⟩
    rcases spells_cons_iff.mp spells with ⟨b, rest, first, restSpells, rfl⟩
    rcases spells_append_iff.mp restSpells with ⟨v, last, vSpells, lastSpells, rfl⟩
    rcases spells_cons_iff.mp lastSpells with ⟨d, nothing, second, empty, rfl⟩
    rw [spells_nil_iff.mp empty, eq_blank_of_sameLetter first, eq_blank_of_sameLetter second]
      at whole
    have inWord := List.count_eq_zero.mpr (solid w mem)
    have counted := congrArg (List.count ' ') whole
    simp only [List.count_append, List.count_cons, List.count_nil, inWord, beq_self_eq_true,
      if_true] at counted
    have noneBefore : before = [] := by
      cases before with
      | nil => rfl
      | cons c before =>
        obtain rfl : c = ' ' := by simpa using congrArg List.head? whole
        simp at counted
        omega
    have noneAfter : after = [] := by
      rcases List.eq_nil_or_concat after with rfl | ⟨after, c, rfl⟩
      · rfl
      · have isLast := congrArg List.getLast? whole
        rw [List.concat_eq_append, ← List.append_assoc, List.getLast?_concat,
          List.getLast?_concat] at isLast
        obtain rfl := Option.some.inj isLast
        simp at counted
        omega
    subst noneBefore noneAfter
    have same : v = w := by simpa using whole
    exact others w mem word isTaboo (same ▸ vSpells)
  induction ws with
  | nil => contradiction
  | cons w ws ih =>
    by_cases last : ws = []
    · subst last
      rw [unwords_singleton]
      exact single List.mem_cons_self
    · rw [unwords_cons w last, List.cons_append, List.append_assoc]
      apply Free.join noBlanks (show Free taboo (' ' :: w ++ [' ']) from single List.mem_cons_self)
      exact ih last (fun v mem => solid v (List.mem_cons_of_mem _ mem))
        (fun v mem => others v (List.mem_cons_of_mem _ mem))
        fun mem => single (List.mem_cons_of_mem _ mem)

/-- No word stands by itself across the end of a text behind which there is no blank. -/
theorem Free.append {taboo : List String} {cs tail : List Char} (free : Free taboo cs)
    (noBlank : ' ' ∉ tail) : Free taboo (cs ++ tail) := by
  rintro word mem ⟨ds, spells, before, after, whole⟩
  rcases exists_last_of_spells spells with ⟨front, c, rfl, -, same⟩
  have isBlank := eq_blank_of_sameLetter same
  subst isBlank
  rcases List.append_eq_append_iff.mp whole with ⟨more, within, -⟩ | ⟨more, across, ends⟩
  · exact free word mem ⟨front ++ [' '], spells, before, more, within.symm⟩
  · rcases List.eq_nil_or_concat more with rfl | ⟨more, d, rfl⟩
    · exact free word mem ⟨front ++ [' '], spells, before, [], by simpa using across⟩
    · obtain rfl : ' ' = d := by simpa using congrArg List.getLast? across
      exact absurd (by simp [ends]) noBlank

/-! ## Letters of English -/

/-- What is true of the letters among the first characters is true of all letters of English. -/
theorem of_isAlpha {P : Char → Prop}
    (first : ∀ n < 123, (Char.ofNat n).isAlpha = true → P (Char.ofNat n)) {c : Char}
    (letter : c.isAlpha = true) : P c := by
  have bound : c.toNat < 123 := by
    rcases Bool.or_eq_true_iff.mp letter with upper | lower
    · have within : 'A'.toNat ≤ c.toNat ∧ c.toNat ≤ 'Z'.toNat := of_decide_eq_true upper
      exact Nat.lt_of_le_of_lt within.2 (by decide)
    · have within : 'a'.toNat ≤ c.toNat ∧ c.toNat ≤ 'z'.toNat :=
        (Bool.and_eq_true_iff.mp lower).imp of_decide_eq_true of_decide_eq_true
      exact Nat.lt_of_le_of_lt within.2 (by decide)
  have here := first c.toNat bound
  rw [Char.ofNat_toNat] at here
  exact here letter

theorem letterKey_of_isAlpha {c : Char} (letter : c.isAlpha = true) :
    letterKey c = c.toLower.toNat := by
  apply of_isAlpha _ letter
  decide +kernel

theorem foldChar_of_isAlpha {c : Char} (letter : c.isAlpha = true) : foldChar c = [c.toLower] := by
  apply of_isAlpha _ letter
  decide +kernel

theorem sameLetter_toLower {c : Char} (letter : c.isAlpha = true) :
    sameLetter c.toLower c = true := by
  apply of_isAlpha _ letter
  decide +kernel

theorem not_mem_markChars {c : Char} (letter : c.isAlpha = true) : c ∉ Bullet.markChars := by
  apply of_isAlpha _ letter
  decide +kernel

/-- What spells a word of lower-case letters has the same letters in lower case. -/
theorem map_toLower_of_spells {word w : List Char} (spells : Spells word w)
    (plain : ∀ p ∈ word, letterKey p = p.toNat) (letters : ∀ c ∈ w, c.isAlpha = true) :
    w.map Char.toLower = word := by
  induction spells with
  | nil => rfl
  | @cons p c word w same _ ih =>
    rcases List.forall_mem_cons.mp plain with ⟨pPlain, plain⟩
    rcases List.forall_mem_cons.mp letters with ⟨letter, letters⟩
    have key : p.toNat = c.toLower.toNat := by
      rw [← pPlain, ← letterKey_of_isAlpha letter]
      exact eq_of_beq same
    rw [List.map_cons, ih plain letters, Char.toNat_inj.mp key]

end Text

namespace Bullet

open FactModel.Text

/-! ## Ordinary names -/

/-- The words of the patterns, of articles and pronouns, and of the phrases that introduce an
example. -/
def reserved : List String :=
  ["is", "identified", "by", "a", "an", "the", "its", "their", "kind", "of", "type", "with", "that",
    "has", "who", "having", "must", "have", "at", "least", "one", "or", "more", "in", "past",
    "before", "today", "like", "matching", "zero", "many", "several", "multiple", "exactly", "and",
    "only", "each", "every", "it", "they", "this", "entity", "for", "example", "instance", "such",
    "as"]

/-- A name of one or more words of letters, with single spaces between them, none of which is
reserved in any case. -/
structure Ordinary (name : String) : Prop where
  tidy : Tidy name.toList
  ne : words name.toList ≠ []
  letters : ∀ w ∈ words name.toList, ∀ c ∈ w, c.isAlpha = true
  unreserved : ∀ w ∈ words name.toList, String.ofList (w.map Char.toLower) ∉ reserved

instance (name : String) : Decidable (Ordinary name) :=
  decidable_of_iff (Tidy name.toList ∧ words name.toList ≠ [] ∧
      (∀ w ∈ words name.toList, ∀ c ∈ w, c.isAlpha = true) ∧
      ∀ w ∈ words name.toList, String.ofList (w.map Char.toLower) ∉ reserved)
    ⟨fun ⟨tidy, ne, letters, unreserved⟩ => ⟨tidy, ne, letters, unreserved⟩,
      fun ⟨tidy, ne, letters, unreserved⟩ => ⟨tidy, ne, letters, unreserved⟩⟩

theorem noBlanks_reserved : ∀ word ∈ reserved, ' ' ∉ word.toList := by
  decide

namespace Ordinary

variable {name : String} (ordinary : Ordinary name)

include ordinary

/-- None of the reserved words stands in an ordinary name. -/
theorem free : Free reserved (standing name) := by
  have lowerCase : ∀ word ∈ reserved, ∀ p ∈ word.toList, letterKey p = p.toNat := by
    decide +kernel
  have whole : Free reserved (' ' :: unwords (words name.toList) ++ [' ']) := by
    apply free_unwords noBlanks_reserved ordinary.ne
    · intro w mem inWord
      exact absurd (ordinary.letters w mem ' ' inWord) (by decide)
    · intro w mem word isReserved spells
      apply ordinary.unreserved w mem
      rw [map_toLower_of_spells spells (lowerCase word isReserved) (ordinary.letters w mem),
        String.ofList_toList]
      exact isReserved
  rwa [show unwords (words name.toList) = name.toList from ordinary.tidy] at whole

theorem toList_ne_nil : name.toList ≠ [] := by
  intro empty
  apply ordinary.ne
  rw [empty]
  rfl

/-- There is nothing in an ordinary name but letters and spaces. -/
theorem letter_or_space : ∀ c ∈ name.toList, c.isAlpha = true ∨ c = ' ' := by
  intro c mem
  rw [← show unwords (words name.toList) = name.toList from ordinary.tidy] at mem
  rcases Name.mem_flatten_intersperse mem with space | ⟨w, wMem, cMem⟩
  · exact .inr space
  · exact .inl (ordinary.letters w wMem c cMem)

theorem plain : Plain name where
  nonempty := by simpa using ordinary.toList_ne_nil
  tidy := ordinary.tidy
  unmarked := by
    intro c mem
    rcases ordinary.letter_or_space c mem with letter | rfl
    · exact not_mem_markChars letter
    · decide
  free := ordinary.free.of_subset (by decide)

/-- A phrase that begins with a reserved word does not stand in an ordinary name. -/
theorem not_occurs {phrase : List Char} {word : String} (isReserved : word ∈ reserved)
    (begins : standing word <+: phrase) {cs : List Char} (within : cs <:+: standing name) :
    ¬Occurs phrase cs := by
  intro occurs
  exact ordinary.free word isReserved ((Occurs.of_prefix begins occurs).mono within)

/-- The key of an ordinary name spells the name. -/
theorem spells_key : Spells (Name.key name).toList name.toList := by
  have lowered : ∀ c ∈ name.toList, foldChar c = [c.toLower] ∧ sameLetter c.toLower c = true := by
    intro c mem
    rcases ordinary.letter_or_space c mem with letter | rfl
    · exact ⟨foldChar_of_isAlpha letter, sameLetter_toLower letter⟩
    · decide
  rw [Name.key, String.toList_ofList, ordinary.tidy, fold]
  generalize name.toList = cs at lowered
  induction cs with
  | nil => exact .nil
  | cons c cs ih =>
    rcases List.forall_mem_cons.mp lowered with ⟨⟨folded, same⟩, lowered⟩
    rw [List.flatMap_cons, folded]
    exact .cons same (ih lowered)

/-- An ordinary name means itself where it is a subject. -/
theorem direct : Direct name := by
  constructor
  · have hinged : ∀ pronoun ∈ Context.pronouns,
        ∃ word ∈ reserved, standing word <+: standing pronoun := by
      decide
    intro isPronoun
    rcases hinged _ isPronoun with ⟨word, isReserved, begins⟩
    apply ordinary.not_occurs isReserved begins List.infix_rfl
    refine ⟨standing name, ?_, List.infix_rfl⟩
    have blank : Spells [' '] [' '] := .cons (sameLetter_self ' ') .nil
    have front : Spells (' ' :: (Name.key name).toList) (' ' :: name.toList) :=
      .cons (sameLetter_self ' ') ordinary.spells_key
    exact spells_append_iff.mpr ⟨_, _, front, blank, rfl⟩
  · have words : ∀ article ∈ Context.leadingArticles,
        ∃ word ∈ reserved, ' ' :: article.toList = standing word := by
      decide
    rw [stripAny, List.filterMap_eq_nil_iff]
    intro article isArticle
    rw [Option.eq_none_iff_forall_ne_some]
    intro rest found
    rcases words article isArticle with ⟨word, isReserved, isWord⟩
    rcases stripPhrase_eq_some_iff.mp found with ⟨ds, spells, whole⟩
    have occurs : Occurs (standing word) (' ' :: name.toList) := by
      rw [← isWord, whole]
      refine ⟨' ' :: ds, ?_, List.IsPrefix.isInfix ⟨rest, rfl⟩⟩
      exact spells_cons_iff.mpr ⟨' ', ds, sameLetter_self ' ', spells, rfl⟩
    exact ordinary.not_occurs isReserved List.prefix_rfl
      (List.prefix_append (' ' :: name.toList) [' ']).isInfix occurs

/-- An ordinary name does not tell of the past. -/
theorem timeless : Timeless name := by
  have hinged : Hinged reserved pastPhrases := by decide
  intro phrase isPhrase
  rcases hinged phrase isPhrase with ⟨word, isReserved, -, begins⟩
  apply ordinary.not_occurs isReserved begins
  exact ⟨[' '], [' '], rfl⟩

/-- An ordinary name is not taken for a kind or a type of something. -/
theorem not_categorical : ¬Categorical name := by
  rintro ⟨word, isWord, found⟩
  have isReserved : word ∈ reserved := by
    have kinds : ["kind", "type"] ⊆ reserved := by decide
    exact kinds isWord
  rcases Option.isSome_iff_exists.mp found with ⟨rest, found⟩
  rcases stripPhrase_eq_some_iff.mp found with ⟨ds, spells, whole⟩
  apply ordinary.not_occurs isReserved List.prefix_rfl List.infix_rfl
  refine ⟨' ' :: ds, ?_, ?_⟩
  · exact spells_cons_iff.mpr ⟨' ', ds, sameLetter_self ' ', spells, rfl⟩
  · rw [standing, List.cons_append, whole]
    exact List.IsPrefix.isInfix ⟨rest, rfl⟩

/-- The plural of an ordinary name can stand where a sentence ends. -/
theorem noun_plural : Noun (Name.plural name) := by
  have ne := ordinary.toList_ne_nil
  rcases Name.exists_plural ne with ⟨front, ending, isPlural, begins, isEnding⟩
  have endings : ∀ ending ∈ ["ies".toList, "es".toList, "s".toList],
      ending.getLast? = some 's' ∧ ' ' ∉ ending ∧ '*' ∉ ending := by
    decide
  rcases endings ending isEnding with ⟨last, noBlank, noMark⟩
  have closing : Closing (Name.plural name).toList := by
    constructor
    · intro empty
      rw [isPlural, List.append_eq_nil_iff] at empty
      rw [empty.2] at last
      contradiction
    · exact Name.tidy_plural ordinary.tidy ne
    · have inFront : Free verbs (' ' :: front) := by
        apply (ordinary.free.of_subset (by decide)).mono
        apply List.IsPrefix.isInfix
        exact (List.cons_prefix_cons.mpr ⟨rfl, begins⟩).trans (List.prefix_append _ [' '])
      rw [isPlural]
      exact inFront.append noBlank
    · intro c isLast
      rw [isPlural, List.getLast?_append, last] at isLast
      cases isLast
      decide
  constructor
  · exact closing
  · rw [isPlural, List.mem_append, not_or]
    exact ⟨fun mem => ordinary.plain.asterisk_not_mem (begins.subset mem), noMark⟩

end Ordinary

/-! ## Ordinary names that are known -/

section Known

variable {known : List String} {name : String} (distinct : (known.map Name.key).Nodup)
  (isKnown : name ∈ known) (ordinary : Ordinary name)

include distinct isKnown

theorem spelled_of_distinct : Spelled known name := by
  intro other mem same
  exact List.inj_on_of_nodup_map distinct mem isKnown same

include ordinary

theorem Ordinary.subject : Subject known name where
  plain := ordinary.plain
  spelled := spelled_of_distinct distinct isKnown
  direct := ordinary.direct

theorem leadsBack_of_singular {noun : String} (isSingular : Name.singular known noun = name) :
    LeadsBack known noun name := by
  rw [LeadsBack, isSingular]
  exact (spelled_of_distinct distinct isKnown).getD_find? ordinary.plain.display_eq

/-- A known name leads back to itself. -/
theorem Ordinary.leadsBack_self : LeadsBack known name name :=
  leadsBack_of_singular distinct isKnown ordinary
    (Name.singular_self distinct isKnown ordinary.tidy)

/-- A plural leads back to the name it was formed from when no other known name is spelled by one of
the names of which it may be the plural. -/
theorem Ordinary.leadsBack_plural
    (only : ∀ other ∈ known, ∀ candidate ∈ Name.singularCandidates (Name.plural name),
      Name.key other = Name.key candidate → other = name) :
    LeadsBack known (Name.plural name) name := by
  have ne := ordinary.toList_ne_nil
  apply leadsBack_of_singular distinct isKnown ordinary
  apply Name.singular_eq distinct isKnown (Name.tidy_plural ordinary.tidy ne)
  · exact Name.exists_candidate ordinary.tidy ne
  · exact only

end Known

/-! ## Examples and patterns -/

/-- The codes of the blanks. -/
def blankCodes : List Nat :=
  List.range' 9 5 ++ List.range' 28 5 ++ [0x85, 0xA0, 0x1680] ++ List.range' 0x2000 11 ++
    [0x2028, 0x2029, 0x202F, 0x205F, 0x3000]

theorem isWord_of_isBlank {c : Char} (blank : isBlank c = true) : isWord c = false := by
  have others : ∀ n ∈ blankCodes, inRanges n wordRanges = false := by
    decide +kernel
  apply others c.toNat
  simp only [isBlank, Bool.or_eq_true, Bool.and_eq_true, decide_eq_true_eq, beq_iff_eq] at blank
  simp only [blankCodes, List.mem_append, List.mem_range'_1, List.mem_cons, List.not_mem_nil,
    or_false]
  omega

/-- A text without blanks and asterisks can stand between quotes. -/
theorem exemplary_of_solid {mark : Char} (isQuote : mark ∈ Object.quoteMarks) {cs : List Char}
    (solid : ∀ c ∈ cs, isBlank c = false) (unmarked : '*' ∉ cs) : Exemplary (mark, cs) := by
  constructor
  · constructor
    · exact isQuote
    · have quotes : ∀ mark ∈ Object.quoteMarks, isBlank mark = false := by decide
      apply Solid.tidy
      constructor
      · simp [Object.enclosed]
      · intro c mem
        rw [Object.enclosed, List.cons_append, List.mem_cons, List.mem_append,
          List.mem_singleton] at mem
        rcases mem with rfl | inside | rfl
        · exact quotes c isQuote
        · exact solid c inside
        · exact quotes c isQuote
  · have empty : Free verbs [] := by decide
    apply empty.append
    intro blank
    exact absurd (solid ' ' blank) (by decide)
  · exact unmarked

/-- A text of letters and digits of any script, underscores and some marks. -/
def Coded (marks : List Char) (text : String) : Prop :=
  ∀ c ∈ text.toList, isWord c = true ∨ c ∈ marks

instance (marks : List Char) (text : String) : Decidable (Coded marks text) :=
  inferInstanceAs (Decidable (∀ c ∈ text.toList, isWord c = true ∨ c ∈ marks))

theorem Coded.exemplary {marks : List Char} {text : String} (coded : Coded marks text)
    (others : ∀ c ∈ marks, isBlank c = false ∧ c ≠ '*') {mark : Char}
    (isQuote : mark ∈ Object.quoteMarks) : Exemplary (mark, text.toList) := by
  apply exemplary_of_solid isQuote
  · intro c mem
    rcases coded c mem with inWord | isMark
    · rw [← Bool.not_eq_true]
      intro blank
      rw [isWord_of_isBlank blank] at inWord
      contradiction
    · exact (others c isMark).1
  · intro mem
    rcases coded '*' mem with inWord | isMark
    · exact absurd inWord (by decide +kernel)
    · exact (others '*' isMark).2 rfl

theorem Coded.quoteless {marks : List Char} {text : String} (coded : Coded marks text)
    (others : ∀ c ∈ marks, Reading.isPatternQuote c = false) : Quoteless text := by
  intro c mem
  rcases coded c mem with inWord | isMark
  · rw [← Bool.not_eq_true]
    intro isQuote
    have quotes : ∀ c ∈ ['\'', '"'], isWord c = false := by decide +kernel
    rw [quotes c (by simpa [Reading.isPatternQuote] using isQuote)] at inWord
    contradiction
  · exact others c isMark

end Bullet

end FactModel
