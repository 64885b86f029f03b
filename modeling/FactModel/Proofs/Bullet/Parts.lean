import FactModel.Proofs.Bullet.Objects
import FactModel.Proofs.Bullet.Readings
import FactModel.Proofs.Number.Counts

/-!
# The parts of an object

What stands behind a verb is cut further: a rule into an attribute and what is said of it, a base
from its condition, a count from its noun.  A count is written in decimal digits and read back from
them.
-/

namespace FactModel

namespace Text

/-- A text is cut wherever one of the phrases stands behind something. -/
theorem mem_cuts {phrases : List String} {phrase : String} (isPhrase : phrase ∈ phrases)
    {front : List Char} (ne : front ≠ []) (rest : List Char) :
    (front, rest) ∈ cuts phrases (front ++ (phrase.toList ++ rest)) := by
  induction front with
  | nil => contradiction
  | cons c front ih =>
    rw [List.cons_append, cuts, List.mem_append]
    by_cases last : front = []
    · left
      subst last
      apply List.mem_map_of_mem
      exact List.mem_filterMap.mpr ⟨phrase, isPhrase, stripPhrase_append ..⟩
    · right
      exact List.mem_map_of_mem (ih last)

theorem exists_last_of_spells {phrase ds : List Char} {p : Char}
    (spells : Spells (phrase ++ [p]) ds) :
    ∃ front c, ds = front ++ [c] ∧ Spells phrase front ∧ sameLetter p c = true := by
  obtain ⟨front, last, frontSpells, lastSpells, rfl⟩ := spells_append_iff.mp spells
  obtain ⟨c, nothing, same, empty, rfl⟩ := spells_cons_iff.mp lastSpells
  obtain rfl := spells_nil_iff.mp empty
  exact ⟨front, c, rfl, frontSpells, same⟩

/-- No phrase stands at the end of a text. -/
theorem find?_cuts_eq_none {phrases : List String} {cs : List Char}
    (other : ∀ phrase ∈ phrases, ∀ ds, Spells phrase.toList ds → ¬ds <:+ cs) :
    (cuts phrases cs).find? (·.2 = []) = none := by
  rw [List.find?_eq_none]
  rintro ⟨front, rest⟩ mem
  rw [decide_eq_true_eq]
  rintro rfl
  obtain ⟨-, phrase, isPhrase, ds, spells, rfl⟩ := of_mem_cuts mem
  apply other phrase isPhrase ds spells
  rw [List.append_nil]
  exact List.suffix_append front ds

end Text

namespace Bullet

open FactModel.Text

/-! ## The past -/

/-- Whether nothing in a name tells of the past. -/
def Timeless (name : String) : Prop :=
  ∀ phrase ∈ pastPhrases, ¬Occurs phrase.toList name.toList

instance (name : String) : Decidable (Timeless name) :=
  inferInstanceAs (Decidable (∀ phrase ∈ pastPhrases, ¬Occurs phrase.toList name.toList))

theorem find?_past_of_timeless {name : String} (timeless : Timeless name) :
    (cuts pastPhrases name.toList).find? (·.2 = []) = none := by
  apply find?_cuts_eq_none
  intro phrase isPhrase ds spells isSuffix
  exact timeless phrase isPhrase ⟨ds, spells, isSuffix.isInfix⟩

/-- A text that ends in no letter of theirs tells nothing of the past. -/
theorem find?_past_of_getLast? {cs : List Char} (isLast : cs.getLast? = some '\'') :
    (cuts pastPhrases cs).find? (·.2 = []) = none := by
  have endings : ∀ phrase ∈ pastPhrases, ∃ front p, phrase.toList = front ++ [p] ∧
      sameLetter p '\'' = false := by
    intro phrase isPhrase
    simp only [pastPhrases, List.mem_cons, List.not_mem_nil, or_false] at isPhrase
    rcases isPhrase with rfl | rfl | rfl
    · exact ⟨" in the pas".toList, 't', rfl, by decide⟩
    · exact ⟨" that is in the pas".toList, 't', rfl, by decide⟩
    · exact ⟨" before toda".toList, 'y', rfl, by decide⟩
  apply find?_cuts_eq_none
  intro phrase isPhrase ds spells isSuffix
  obtain ⟨front, p, form, differs⟩ := endings phrase isPhrase
  rw [form] at spells
  obtain ⟨front, c, rfl, -, same⟩ := exists_last_of_spells spells
  rw [getLast?_of_suffix isSuffix (by simp), List.getLast?_concat] at isLast
  cases isLast
  rw [differs] at same
  contradiction

/-- Of the ways to cut a rule that ends in the past just one leaves nothing over. -/
theorem find?_past {name : String} (plain : Plain name) :
    (cuts pastPhrases (name.toList ++ " in the past".toList)).find? (·.2 = []) =
      some (name.toList, []) := by
  have isCut := mem_cuts (by decide : " in the past" ∈ pastPhrases)
    plain.toList_ne_nil []
  rw [List.append_nil] at isCut
  cases found : (cuts pastPhrases (name.toList ++ " in the past".toList)).find? (·.2 = []) with
  | none =>
    have differs := List.find?_eq_none.mp found _ isCut
    simp at differs
  | some cut =>
    obtain ⟨front, rest⟩ := cut
    have isEnd : rest = [] := by simpa using List.find?_some found
    subst isEnd
    obtain ⟨-, phrase, isPhrase, ds, spells, whole⟩ := of_mem_cuts (List.mem_of_find?_eq_some found)
    rw [List.append_nil] at whole
    suffices same : front = name.toList by rw [same]
    simp only [pastPhrases, List.mem_cons, List.not_mem_nil, or_false] at isPhrase
    rcases isPhrase with rfl | rfl | rfl
    · exact (List.append_inj_left' whole spells.length_eq).symm
    · -- The name would end in a verb.
      obtain ⟨verb, ds, verbSpells, dsSpells, rfl⟩ :=
        spells_append_iff.mp (show Spells (" that is".toList ++ " in the past".toList) _ from spells)
      rw [← List.append_assoc] at whole
      have ends := List.append_inj_left' whole dsSpells.length_eq
      have occurs : Occurs (standing "that") name.toList :=
        Occurs.of_prefix (by decide : standing "that" <+: " that is".toList)
          ⟨verb, verbSpells, ends ▸ (List.suffix_append front verb).isInfix⟩
      refine absurd (occurs.mono ?_) (plain.free "that" (by decide))
      exact ⟨[' '], [' '], rfl⟩
    · obtain ⟨ds, c, rfl, -, same⟩ :=
        exists_last_of_spells (show Spells (" before toda".toList ++ ['y']) _ from spells)
      have isLast := congrArg List.getLast? whole
      rw [← List.append_assoc, List.getLast?_concat, List.getLast?_append] at isLast
      obtain rfl : 't' = c := Option.some.inj isLast
      contradiction

/-! ## Patterns -/

/-- A pattern that is read as it is written between single quotes. -/
def Quoteless (pattern : String) : Prop :=
  ∀ c ∈ pattern.toList, Reading.isPatternQuote c = false

instance (pattern : String) : Decidable (Quoteless pattern) :=
  inferInstanceAs (Decidable (∀ c ∈ pattern.toList, Reading.isPatternQuote c = false))

theorem quotedPattern_eq {pattern : String} (quoteless : Quoteless pattern) :
    Reading.quotedPattern (Object.enclosed '\'' pattern.toList) = some pattern.toList := by
  have inside : ∀ c ∈ pattern.toList, (!Reading.isPatternQuote c) = true := by
    intro c mem
    rw [quoteless c mem]
    rfl
  have taken : (pattern.toList ++ ['\'']).takeWhile (!Reading.isPatternQuote ·) =
      pattern.toList := by
    rw [List.takeWhile_append_of_pos inside]
    simp [Reading.isPatternQuote]
  have dropped : (pattern.toList ++ ['\'']).dropWhile (!Reading.isPatternQuote ·) = ['\''] := by
    rw [List.dropWhile_append_of_pos inside]
    rfl
  change Reading.quotedPattern ('\'' :: (pattern.toList ++ ['\''])) = _
  rw [Reading.quotedPattern, if_pos (by decide), taken, dropped]

theorem findSome?_like {name pattern : String} (plain : Plain name) (quoteless : Quoteless pattern)
    (subject : List Char) :
    (cuts [" like ", " matching "]
        (name.toList ++ ' ' :: ("like ".toList ++ Object.enclosed '\'' pattern.toList))).findSome?
      (fun (attr, tail) => (Reading.quotedPattern tail).map (Reading.like subject attr)) =
        some (.like subject name.toList pattern.toList) := by
  have stripped : stripAny [" like ", " matching "]
      (' ' :: ("like ".toList ++ Object.enclosed '\'' pattern.toList)) =
        [Object.enclosed '\'' pattern.toList] :=
    rfl
  rw [cuts_append (by decide : Hinged ["like", "matching"] _) plain.toList_ne_nil
    (plain.free_append.of_subset (by decide)), stripped, List.map_singleton, List.singleton_append,
    List.findSome?_cons]
  simp only [quotedPattern_eq quoteless, Option.map_some]

theorem cuts_like_eq_nil {name : String} (plain : Plain name) :
    cuts [" like ", " matching "] name.toList = [] :=
  cuts_eq_nil (by decide : Hinged ["like", "matching"] _)
    ((plain.free_append.of_subset (by decide)).mono (List.prefix_append _ _).isInfix)

/-! ## Counts -/

theorem countAndNoun_eq (n : Nat) {noun : List Char} (ne : noun ≠ []) :
    Reading.countAndNoun (Count.digits n ++ ' ' :: noun) = some (Count.digits n, noun) := by
  have inCount : ∀ c ∈ Count.digits n, isWord c = true := Count.forall_mem_digits (by decide) n
  have taken : (Count.digits n ++ ' ' :: noun).takeWhile isWord = Count.digits n := by
    rw [List.takeWhile_append_of_pos inCount, List.takeWhile_cons_of_neg (by decide),
      List.append_nil]
  have dropped : (Count.digits n ++ ' ' :: noun).dropWhile isWord = ' ' :: noun := by
    rw [List.dropWhile_append_of_pos inCount, List.dropWhile_cons_of_neg (by decide)]
  obtain ⟨d, more, isCount⟩ := List.exists_cons_of_ne_nil (Count.digits_ne_nil n)
  obtain ⟨c, rest, rfl⟩ := List.exists_cons_of_ne_nil ne
  rw [Reading.countAndNoun, taken, dropped, isCount]
  rfl

theorem atLeast_eq (n : Nat) {noun : List Char} (ne : noun ≠ []) :
    (stripPhrase "at least ".toList ("at least ".toList ++ (Count.digits n ++ ' ' :: noun))).bind
      Reading.countAndNoun = some (Count.digits n, noun) := by
  rw [stripPhrase_append, Option.bind_some, countAndNoun_eq n ne]

/-! ## Conditions -/

/-- Whether a name behind `is a` would be taken for a kind or a type of something. -/
def Categorical (name : String) : Prop :=
  ∃ word ∈ ["kind", "type"], (stripPhrase (word.toList ++ [' ']) (name.toList ++ [' '])).isSome

instance (name : String) : Decidable (Categorical name) :=
  inferInstanceAs (Decidable (∃ word ∈ ["kind", "type"],
    (stripPhrase (word.toList ++ [' ']) (name.toList ++ [' '])).isSome))

theorem stripPhrase_of_not_categorical {name : String} (other : ¬Categorical name)
    {phrase : List Char} {word : String} (isWord : word ∈ ["kind", "type"])
    (isPrefix : word.toList ++ [' '] <+: phrase) {tail : List Char}
    (ends : tail = [] ∨ ∃ rest, tail = ' ' :: rest) :
    stripPhrase phrase (name.toList ++ tail) = none := by
  rw [Option.eq_none_iff_forall_ne_some]
  intro rest found
  obtain ⟨more, rfl⟩ := isPrefix
  obtain ⟨ds, spells, whole⟩ := stripPhrase_eq_some_iff.mp found
  obtain ⟨wordDs, moreDs, wordSpells, -, rfl⟩ := spells_append_iff.mp spells
  have noBlank : ∀ word ∈ ["kind", "type"], ' ' ∉ word.toList := by decide
  have short : wordDs <+: name.toList ++ [' '] := by
    have isFront : wordDs <+: name.toList ++ tail :=
      ⟨moreDs ++ rest, by rw [← List.append_assoc, ← whole]⟩
    rcases ends with rfl | ⟨later, rfl⟩
    · rw [List.append_nil] at isFront
      exact isFront.trans (List.prefix_append name.toList [' '])
    · exact prefix_of_prefix_append (noBlank word isWord) wordSpells isFront
  obtain ⟨last, same⟩ := short
  exact other ⟨word, isWord, by
    rw [stripPhrase_eq_some_iff.mpr ⟨wordDs, wordSpells, same.symm⟩]
    rfl⟩

/-- What stands behind a base: nothing, or its condition. -/
def conditionTail : Option (List Char) → List Char
  | none => []
  | some condition => ' ' :: ("with ".toList ++ condition)

theorem baseAndCondition_eq {name : String} (plain : Plain name) {condition : Option (List Char)}
    (ne : ∀ written ∈ condition, written ≠ []) :
    Reading.baseAndCondition (name.toList ++ conditionTail condition) =
      some (name.toList, condition) := by
  cases condition with
  | none =>
    have noCuts : cuts [" with ", " that has ", " who has ", " having "] name.toList = [] :=
      cuts_eq_nil (by decide : Hinged ["with", "that", "who", "having"] _)
        ((plain.free_append.of_subset (by decide)).mono (List.prefix_append _ _).isInfix)
    rw [conditionTail, List.append_nil, Reading.baseAndCondition, Reading.cutInTwo, noCuts]
    simp [plain.toList_ne_nil]
  | some condition =>
    have stripped : stripAny [" with ", " that has ", " who has ", " having "]
        (' ' :: ("with ".toList ++ condition)) = [condition] :=
      rfl
    rw [conditionTail, Reading.baseAndCondition, Reading.cutInTwo,
      cuts_append (by decide : Hinged ["with", "that", "who", "having"] _) plain.toList_ne_nil
        (plain.free_append.of_subset (by decide)), stripped]
    simp [ne condition rfl]

theorem stripAny_isA {name : String} (other : ¬Categorical name)
    (condition : Option (List Char)) :
    stripAny [" is a kind of ", " is a type of ", " is an ", " is a "]
        (' ' :: ("is a".toList ++ ' ' :: (name.toList ++ conditionTail condition))) =
      [name.toList ++ conditionTail condition] := by
  have ends : conditionTail condition = [] ∨ ∃ rest, conditionTail condition = ' ' :: rest := by
    cases condition with
    | none => exact .inl rfl
    | some condition => exact .inr ⟨_, rfl⟩
  have noKind : stripPhrase " is a kind of ".toList
      (' ' :: ("is a".toList ++ ' ' :: (name.toList ++ conditionTail condition))) = none :=
    stripPhrase_of_not_categorical other (by decide : "kind" ∈ ["kind", "type"])
      (by decide : _ <+: "kind of ".toList) ends
  have noType : stripPhrase " is a type of ".toList
      (' ' :: ("is a".toList ++ ' ' :: (name.toList ++ conditionTail condition))) = none :=
    stripPhrase_of_not_categorical other (by decide : "type" ∈ ["kind", "type"])
      (by decide : _ <+: "type of ".toList) ends
  simp only [stripAny, List.filterMap_cons, noKind, noType]
  rfl

end Bullet

end FactModel
