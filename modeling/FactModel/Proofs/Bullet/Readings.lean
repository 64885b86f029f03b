import FactModel.Proofs.Bullet.Names

/-!
# How sentences of each kind are read

A sentence is a plain subject, a verb phrase and an object in which no verb stands by itself.  Since
every pattern hinges on a verb, such a sentence is cut behind its subject or not at all.  For each
kind of sentence the patterns in front of its own decline, and its own gives its parts.
-/

namespace FactModel.Bullet

open FactModel.Text

/-- A subject, a verb phrase and an object, with spaces between them. -/
def sentence (subject verb : String) (object : List Char) : List Char :=
  subject.toList ++ ' ' :: (verb.toList ++ ' ' :: object)

/-- What a body is read as: the patterns in front of one decline, and that one gives the reading. -/
def ReadAs (body : List Char) (reading : Reading) : Prop :=
  ∃ n pattern, Reading.patterns[n]? = some pattern ∧
    (∀ other ∈ Reading.patterns.take n, other body = none) ∧ pattern body = some reading

theorem Context.firstFact_eq {ctx : Context} {body : List Char} {reading : Reading} {f : Fact}
    (resolved : ctx.resolve reading = .ok (some f)) {n : Nat}
    {patterns : List (List Char → Option Reading)} {pattern : List Char → Option Reading}
    (atPlace : patterns[n]? = some pattern) (declined : ∀ other ∈ patterns.take n, other body = none)
    (read : pattern body = some reading) : ctx.firstFact body patterns = .ok (some f) := by
  induction patterns generalizing n with
  | nil => simp at atPlace
  | cons first patterns ih =>
    cases n with
    | zero =>
      obtain rfl : first = pattern := by simpa using atPlace
      rw [firstFact, read]
      simp only [resolved]
    | succ n =>
      rw [firstFact, declined first (by simp)]
      apply ih (n := n)
      · simpa using atPlace
      · intro other mem
        exact declined other (List.mem_cons_of_mem _ mem)

theorem Context.classify_eq {ctx : Context} {reading : Reading} {f : Fact}
    (readAs : ReadAs ctx.text.toList reading) (resolved : ctx.resolve reading = .ok (some f)) :
    ctx.classify = .ok (some f) := by
  obtain ⟨n, pattern, atPlace, declined, read⟩ := readAs
  exact firstFact_eq resolved atPlace declined read

/-! ## Cutting sentences -/

section Cuts

variable {subject verb : String} {object : List Char} (plain : Plain subject)
  (verbFree : Free verbs (verb.toList ++ [' '])) (free : Free verbs (' ' :: object))

include plain verbFree free

/-- A sentence is cut behind its subject or not at all. -/
theorem cuts_sentence {word : String} (isVerb : word ∈ verbs) {phrases : List String}
    (hinged : Hinged [word] phrases) :
    cuts phrases (sentence subject verb object) =
      (stripAny phrases (' ' :: (verb.toList ++ ' ' :: object))).map
        fun rest => (subject.toList, rest) := by
  have only : [word] ⊆ verbs := by simpa using isVerb
  have known : [word] ⊆ keyWords := List.Subset.trans only (List.subset_append_left _ _)
  have front : Free [word] (subject.toList ++ [' ']) := plain.free_append.of_subset known
  have back : Free [word] (verb.toList ++ ' ' :: object) :=
    Free.join (fun other mem => noBlanks_keyWords other (known mem)) (verbFree.of_subset only)
      (free.of_subset only)
  rw [sentence, cuts_append hinged plain.toList_ne_nil front, cuts_cons_eq_nil hinged back]
  simp

/-- The patterns that hinge on `is` decline a sentence of another verb. -/
theorem declines_is
    (other : stripAny [" is identified by ", " is a kind of ", " is a type of ", " is an ", " is a "]
      (' ' :: (verb.toList ++ ' ' :: object)) = []) :
    Reading.identifiedBy? (sentence subject verb object) = none ∧
      Reading.isA? (sentence subject verb object) = none := by
  obtain ⟨noIdentifier, noBase⟩ := List.append_eq_nil_iff.mp
    ((List.filterMap_append (l := [" is identified by "])).symm.trans other)
  constructor
  · rw [Reading.identifiedBy?, cuts_sentence plain verbFree free (by decide : "is" ∈ verbs)
      (by decide), stripAny, noIdentifier]
    rfl
  · rw [Reading.isA?, cuts_sentence plain verbFree free (by decide : "is" ∈ verbs) (by decide),
      stripAny, noBase]
    rfl

/-- The patterns that hinge on `must` decline a sentence of another verb. -/
theorem declines_must
    (other : stripAny [" must have ", " must have a ", " must have an ", " must have the "]
      (' ' :: (verb.toList ++ ' ' :: object)) = []) :
    Reading.minCount? (sentence subject verb object) = none ∧
      Reading.inPast? (sentence subject verb object) = none ∧
      Reading.like? (sentence subject verb object) = none ∧
      Reading.notNull? (sentence subject verb object) = none := by
  obtain ⟨noCount, noRule⟩ := List.append_eq_nil_iff.mp
    ((List.filterMap_append (l := [" must have "])).symm.trans other)
  have noCuts : Reading.ruleCuts (sentence subject verb object) = [] := by
    rw [Reading.ruleCuts, cuts_sentence plain verbFree free (by decide : "must" ∈ verbs)
      (by decide), stripAny, noRule]
    rfl
  refine ⟨?_, ?_, ?_, ?_⟩
  · rw [Reading.minCount?, cuts_sentence plain verbFree free (by decide : "must" ∈ verbs)
      (by decide), stripAny, noCount]
    rfl
  · rw [Reading.inPast?, noCuts]
    rfl
  · rw [Reading.like?, noCuts]
    rfl
  · rw [Reading.notNull?, noCuts]
    rfl

theorem cutInTwo_sentence {word : String} (isVerb : word ∈ verbs) {phrases : List String}
    (hinged : Hinged [word] phrases) {rest : List Char} (ne : rest ≠ [])
    (strips : stripAny phrases (' ' :: (verb.toList ++ ' ' :: object)) = [rest]) :
    Reading.cutInTwo phrases (sentence subject verb object) = some (subject.toList, rest) := by
  rw [Reading.cutInTwo, cuts_sentence plain verbFree free isVerb hinged, strips]
  simp [ne]

theorem cutInTwo_sentence_eq_none {word : String} (isVerb : word ∈ verbs) {phrases : List String}
    (hinged : Hinged [word] phrases)
    (strips : stripAny phrases (' ' :: (verb.toList ++ ' ' :: object)) = []) :
    Reading.cutInTwo phrases (sentence subject verb object) = none := by
  rw [Reading.cutInTwo, cuts_sentence plain verbFree free isVerb hinged, strips]
  rfl

end Cuts

/-! ## Having -/

section Having

variable {subject verb : String} {object : List Char} (plain : Plain subject)
  (verbFree : Free verbs (verb.toList ++ [' '])) (free : Free verbs (' ' :: object))
  (ne : object ≠ [])
  (noIs : stripAny [" is identified by ", " is a kind of ", " is a type of ", " is an ", " is a "]
    (' ' :: (verb.toList ++ ' ' :: object)) = [])
  (noMust : stripAny [" must have ", " must have a ", " must have an ", " must have the "]
    (' ' :: (verb.toList ++ ' ' :: object)) = [])

include plain verbFree free ne noIs noMust

theorem readAs_hasMany
    (strips : stripAny [" has one or more ", " has zero or more ", " has many ", " has several ",
      " has multiple "] (' ' :: (verb.toList ++ ' ' :: object)) = [object]) :
    ReadAs (sentence subject verb object) (.hasMany subject.toList object) := by
  obtain ⟨noIdentifier, noBase⟩ := declines_is plain verbFree free noIs
  obtain ⟨noCount, noPast, noLike, noNull⟩ := declines_must plain verbFree free noMust
  refine ⟨6, Reading.hasMany?, rfl, ?_, ?_⟩
  · simp [Reading.patterns, noIdentifier, noBase, noCount, noPast, noLike, noNull]
  · rw [Reading.hasMany?, cutInTwo_sentence plain verbFree free (by decide : "has" ∈ verbs)
      (by decide) ne strips]
    rfl

theorem readAs_hasExactlyOne
    (noMany : stripAny [" has one or more ", " has zero or more ", " has many ", " has several ",
      " has multiple "] (' ' :: (verb.toList ++ ' ' :: object)) = [])
    (strips : stripAny [" has exactly one ", " has one and only one "]
      (' ' :: (verb.toList ++ ' ' :: object)) = [object]) :
    ReadAs (sentence subject verb object) (.hasExactlyOne subject.toList object) := by
  obtain ⟨noIdentifier, noBase⟩ := declines_is plain verbFree free noIs
  obtain ⟨noCount, noPast, noLike, noNull⟩ := declines_must plain verbFree free noMust
  have noManyCut := cutInTwo_sentence_eq_none plain verbFree free (by decide : "has" ∈ verbs)
    (by decide) noMany
  refine ⟨7, Reading.hasExactlyOne?, rfl, ?_, ?_⟩
  · simp [Reading.patterns, noIdentifier, noBase, noCount, noPast, noLike, noNull,
      Reading.hasMany?, noManyCut]
  · rw [Reading.hasExactlyOne?, cutInTwo_sentence plain verbFree free (by decide : "has" ∈ verbs)
      (by decide) ne strips]
    rfl

theorem readAs_has
    (noMany : stripAny [" has one or more ", " has zero or more ", " has many ", " has several ",
      " has multiple "] (' ' :: (verb.toList ++ ' ' :: object)) = [])
    (noOne : stripAny [" has exactly one ", " has one and only one "]
      (' ' :: (verb.toList ++ ' ' :: object)) = [])
    (strips : stripAny [" has a ", " has an ", " has one "]
      (' ' :: (verb.toList ++ ' ' :: object)) = [object]) :
    ReadAs (sentence subject verb object) (.has subject.toList object) := by
  obtain ⟨noIdentifier, noBase⟩ := declines_is plain verbFree free noIs
  obtain ⟨noCount, noPast, noLike, noNull⟩ := declines_must plain verbFree free noMust
  have noManyCut := cutInTwo_sentence_eq_none plain verbFree free (by decide : "has" ∈ verbs)
    (by decide) noMany
  have noOneCut := cutInTwo_sentence_eq_none plain verbFree free (by decide : "has" ∈ verbs)
    (by decide) noOne
  refine ⟨8, Reading.has?, rfl, ?_, ?_⟩
  · simp [Reading.patterns, noIdentifier, noBase, noCount, noPast, noLike, noNull,
      Reading.hasMany?, noManyCut, Reading.hasExactlyOne?, noOneCut]
  · rw [Reading.has?, cutInTwo_sentence plain verbFree free (by decide : "has" ∈ verbs)
      (by decide) ne strips]
    rfl

end Having

/-! ## Being -/

section Being

variable {subject verb : String} {object : List Char} (plain : Plain subject)
  (verbFree : Free verbs (verb.toList ++ [' '])) (free : Free verbs (' ' :: object))

include plain verbFree free

theorem readAs_identifiedBy (isVerb : verb = "is identified by its") (ne : object ≠ []) :
    ReadAs (sentence subject verb object) (.identifiedBy subject.toList object) := by
  subst isVerb
  have named : (stripOptional ["a ", "an ", "the ", "its ", "their "]
      ("its ".toList ++ object)).find? (· ≠ []) = some object := by
    have stripped : stripOptional ["a ", "an ", "the ", "its ", "their "]
        ("its ".toList ++ object) = [object, "its ".toList ++ object] := rfl
    rw [stripped]
    simp [ne]
  have cut : cuts [" is identified by "] (sentence subject "is identified by its" object) =
      [(subject.toList, "its ".toList ++ object)] :=
    cuts_sentence plain verbFree free (by decide : "is" ∈ verbs) (by decide)
  refine ⟨0, Reading.identifiedBy?, rfl, by simp, ?_⟩
  rw [Reading.identifiedBy?, cut, List.findSome?_cons]
  simp only [named]
  rfl

theorem readAs_isA {base : List Char} {condition : Option (List Char)}
    (noIdentifier : stripAny [" is identified by "] (' ' :: (verb.toList ++ ' ' :: object)) = [])
    (strips : stripAny [" is a kind of ", " is a type of ", " is an ", " is a "]
      (' ' :: (verb.toList ++ ' ' :: object)) = [object])
    (parts : Reading.baseAndCondition object = some (base, condition)) :
    ReadAs (sentence subject verb object) (.isA subject.toList base condition) := by
  refine ⟨1, Reading.isA?, rfl, ?_, ?_⟩
  · simp [Reading.patterns, Reading.identifiedBy?, noIdentifier,
      cuts_sentence plain verbFree free (by decide : "is" ∈ verbs)
        (by decide : Hinged _ [" is identified by "])]
  · rw [Reading.isA?, cuts_sentence plain verbFree free (by decide : "is" ∈ verbs) (by decide),
      strips]
    simp [parts]

end Being

/-! ## Obeying -/

/-- The phrases that tell of the past. -/
def pastPhrases : List String :=
  [" in the past", " that is in the past", " before today"]

section Obeying

variable {subject verb : String} {object : List Char} (plain : Plain subject)
  (verbFree : Free verbs (verb.toList ++ [' '])) (free : Free verbs (' ' :: object))
  (noIs : stripAny [" is identified by ", " is a kind of ", " is a type of ", " is an ", " is a "]
    (' ' :: (verb.toList ++ ' ' :: object)) = [])

include plain verbFree free noIs

theorem readAs_minCount {rest count target : List Char}
    (strips : stripAny [" must have "] (' ' :: (verb.toList ++ ' ' :: object)) = [rest])
    (counted : (stripPhrase "at least ".toList rest).bind Reading.countAndNoun =
      some (count, target)) :
    ReadAs (sentence subject verb object) (.minCount subject.toList (some count) target) := by
  obtain ⟨noIdentifier, noBase⟩ := declines_is plain verbFree free noIs
  refine ⟨2, Reading.minCount?, rfl, ?_, ?_⟩
  · simp [Reading.patterns, noIdentifier, noBase]
  · rw [Reading.minCount?, cuts_sentence plain verbFree free (by decide : "must" ∈ verbs)
      (by decide), strips]
    simp only [List.map_cons, List.map_nil, List.findSome?_cons, counted]

section Rules

variable {rest : List Char}
  (counts : stripAny [" must have "] (' ' :: (verb.toList ++ ' ' :: object)) = [rest])
  (noLeast : stripPhrase "at least ".toList rest = none)
  (noMore : stripPhrase "one or more ".toList rest = none)
  (rules : stripAny [" must have a ", " must have an ", " must have the "]
    (' ' :: (verb.toList ++ ' ' :: object)) = [object])

include counts noLeast noMore rules

/-- The patterns in front of those of rules decline a rule, which is cut behind its subject. -/
theorem declines_rule :
    (∀ other ∈ Reading.patterns.take 3, other (sentence subject verb object) = none) ∧
      Reading.ruleCuts (sentence subject verb object) = [(subject.toList, object)] := by
  obtain ⟨noIdentifier, noBase⟩ := declines_is plain verbFree free noIs
  have noCount : Reading.minCount? (sentence subject verb object) = none := by
    rw [Reading.minCount?, cuts_sentence plain verbFree free (by decide : "must" ∈ verbs)
      (by decide), counts]
    simp only [List.map_cons, List.map_nil, List.findSome?_cons, noLeast, noMore]
    rfl
  constructor
  · simp [Reading.patterns, noIdentifier, noBase, noCount]
  · rw [Reading.ruleCuts, cuts_sentence plain verbFree free (by decide : "must" ∈ verbs)
      (by decide), rules]
    rfl

theorem readAs_inPast {attr : List Char}
    (past : (cuts pastPhrases object).find? (·.2 = []) = some (attr, [])) :
    ReadAs (sentence subject verb object) (.inPast subject.toList attr) := by
  obtain ⟨declined, cut⟩ := declines_rule plain verbFree free noIs counts noLeast noMore rules
  refine ⟨3, Reading.inPast?, rfl, declined, ?_⟩
  rw [pastPhrases] at past
  rw [Reading.inPast?, cut, List.findSome?_cons]
  simp only [past]
  rfl

/-- A rule that does not tell of the past is declined by the pattern of rules that do. -/
theorem inPast?_eq_none (noPast : (cuts pastPhrases object).find? (·.2 = []) = none) :
    Reading.inPast? (sentence subject verb object) = none := by
  have cut := (declines_rule plain verbFree free noIs counts noLeast noMore rules).2
  rw [pastPhrases] at noPast
  rw [Reading.inPast?, cut, List.findSome?_cons]
  simp only [noPast]
  rfl

theorem readAs_like {attr pattern : List Char}
    (noPast : (cuts pastPhrases object).find? (·.2 = []) = none)
    (quoted : (cuts [" like ", " matching "] object).findSome? (fun (attr, tail) =>
      (Reading.quotedPattern tail).map (Reading.like subject.toList attr)) =
        some (.like subject.toList attr pattern)) :
    ReadAs (sentence subject verb object) (.like subject.toList attr pattern) := by
  obtain ⟨declined, cut⟩ := declines_rule plain verbFree free noIs counts noLeast noMore rules
  have past := inPast?_eq_none plain verbFree free noIs counts noLeast noMore rules noPast
  refine ⟨4, Reading.like?, rfl, ?_, ?_⟩
  · intro other mem
    change other ∈ Reading.patterns.take 3 ++ [Reading.inPast?] at mem
    rcases List.mem_append.mp mem with early | last
    · exact declined other early
    · rwa [List.mem_singleton.mp last]
  · rw [Reading.like?, cut, List.findSome?_cons]
    simp only [quoted]

theorem readAs_notNull (ne : object ≠ [])
    (noPast : (cuts pastPhrases object).find? (·.2 = []) = none)
    (noLike : cuts [" like ", " matching "] object = []) :
    ReadAs (sentence subject verb object) (.notNull subject.toList object) := by
  obtain ⟨declined, cut⟩ := declines_rule plain verbFree free noIs counts noLeast noMore rules
  have past := inPast?_eq_none plain verbFree free noIs counts noLeast noMore rules noPast
  have like : Reading.like? (sentence subject verb object) = none := by
    rw [Reading.like?, cut, List.findSome?_cons]
    simp only [noLike]
    rfl
  refine ⟨5, Reading.notNull?, rfl, ?_, ?_⟩
  · intro other mem
    change other ∈ Reading.patterns.take 3 ++ [Reading.inPast?, Reading.like?] at mem
    rcases List.mem_append.mp mem with early | last
    · exact declined other early
    · simp only [List.mem_cons, List.not_mem_nil, or_false] at last
      rcases last with rfl | rfl
      · exact past
      · exact like
  · rw [Reading.notNull?, cut]
    simp [ne]

end Rules

end Obeying

end FactModel.Bullet
