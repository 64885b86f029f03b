import FactModel.Proofs.Bullet.Parts
import FactModel.Proofs.Document.Lines
import FactModel.Proofs.Document.Reading
import FactModel.Proofs.Number.Counts

/-!
# What sentences state

There is one lemma for each kind of sentence that a description is made of.  Wherever the sentence
stands as a bullet, it states the fact that it was written for.
-/

namespace FactModel.Bullet

open FactModel.Text

/-! ## What may stand behind a verb -/

/-- A text in which no verb stands by itself, and which can be the end of a sentence. -/
structure Sayable (object : List Char) : Prop where
  ne : object ≠ []
  tidy : Tidy object
  free : Free verbs (' ' :: object ++ [' '])
  ends : ∀ c ∈ object.getLast?, isEndMark c = false

instance (object : List Char) : Decidable (Sayable object) :=
  decidable_of_iff (object ≠ [] ∧ Tidy object ∧ Free verbs (' ' :: object ++ [' ']) ∧
      ∀ c ∈ object.getLast?, isEndMark c = false)
    ⟨fun ⟨ne, tidy, free, ends⟩ => ⟨ne, tidy, free, ends⟩,
      fun ⟨ne, tidy, free, ends⟩ => ⟨ne, tidy, free, ends⟩⟩

/-- A text that can be the end of a sentence.  No verb stands in it by itself, unless at its end,
where nothing follows. -/
structure Closing (object : List Char) : Prop where
  ne : object ≠ []
  tidy : Tidy object
  free : Free verbs (' ' :: object)
  ends : ∀ c ∈ object.getLast?, isEndMark c = false

instance (object : List Char) : Decidable (Closing object) :=
  decidable_of_iff (object ≠ [] ∧ Tidy object ∧ Free verbs (' ' :: object) ∧
      ∀ c ∈ object.getLast?, isEndMark c = false)
    ⟨fun ⟨ne, tidy, free, ends⟩ => ⟨ne, tidy, free, ends⟩,
      fun ⟨ne, tidy, free, ends⟩ => ⟨ne, tidy, free, ends⟩⟩

theorem noBlanks_verbs : ∀ word ∈ verbs, ' ' ∉ word.toList := by
  decide

namespace Sayable

variable {front back : List Char}

theorem closing (sayable : Sayable back) : Closing back where
  ne := sayable.ne
  tidy := sayable.tidy
  free := sayable.free.mono (List.prefix_append _ [' ']).isInfix
  ends := sayable.ends

/-- An end of a sentence may have more in front of it. -/
theorem join_closing (frontSayable : Sayable front) (backClosing : Closing back) :
    Closing (front ++ ' ' :: back) where
  ne := by simp
  tidy := frontSayable.tidy.join backClosing.tidy frontSayable.ne backClosing.ne
  free := Free.join noBlanks_verbs frontSayable.free backClosing.free
  ends := by
    have isSuffix : back <:+ front ++ ' ' :: back :=
      (List.suffix_cons ' ' back).trans (List.suffix_append front _)
    rw [getLast?_of_suffix isSuffix backClosing.ne]
    exact backClosing.ends

theorem join (frontSayable : Sayable front) (backSayable : Sayable back) :
    Sayable (front ++ ' ' :: back) where
  ne := by simp
  tidy := (frontSayable.join_closing backSayable.closing).tidy
  free := by
    have joined := Free.join noBlanks_verbs frontSayable.free
      (show Free verbs (' ' :: (back ++ [' '])) by simpa using backSayable.free)
    simpa using joined
  ends := (frontSayable.join_closing backSayable.closing).ends

/-- No verb ends or begins with a comma. -/
theorem comma (sayable : Sayable front) : Sayable (front ++ [',']) where
  ne := by simp
  tidy := sayable.tidy.append (by decide)
  free := by
    have cut := Free.cut (c := ',') (by decide) sayable.closing.free
      (by decide : Free verbs [' '])
    simpa using cut
  ends := by
    rw [List.getLast?_concat]
    decide

theorem digits (n : Nat) : Sayable (Count.digits n) where
  ne := Count.digits_ne_nil n
  tidy := (Count.solid_digits n).tidy
  free := by
    have letter : ∀ c ∈ Count.digits n, sameLetter 's' c = false :=
      Count.forall_mem_digits (by decide) n
    have inVerbs : ∀ word ∈ verbs, 's' ∈ word.toList := by decide
    apply free_of_lacks
    intro word isVerb
    refine ⟨'s', inVerbs word isVerb, ?_⟩
    intro c mem
    rw [List.cons_append, List.mem_cons, List.mem_append, List.mem_singleton] at mem
    rcases mem with rfl | inDigits | rfl
    · decide
    · exact letter c inDigits
    · decide
  ends := by
    intro c isLast
    have others : ∀ c ∈ Count.digits n, isEndMark c = false :=
      Count.forall_mem_digits (by decide) n
    exact others c (List.mem_of_getLast? isLast)

/-- A sample between quotes may stand behind a verb when no verb stands in it. -/
theorem enclosed {mark : Char} {sample : List Char} (quotable : Object.Quotable (mark, sample))
    (sampleFree : Free verbs sample) : Sayable (Object.enclosed mark sample) where
  ne := by simp [Object.enclosed]
  tidy := quotable.2
  free := by
    have foreign : ∀ mark ∈ Object.quoteMarks, ∀ word ∈ verbs, ∀ p ∈ standing word,
        sameLetter p mark = false := by
      decide
    have here := foreign mark quotable.1
    have inside := Free.cut here sampleFree (by decide : Free verbs [' '])
    have whole := Free.cut here (by decide : Free verbs [' ']) inside
    simpa [Object.enclosed] using whole
  ends := by
    have others : ∀ mark ∈ Object.quoteMarks, isEndMark mark = false := by decide
    intro c isLast
    rw [Object.enclosed, List.getLast?_append] at isLast
    cases isLast
    exact others mark quotable.1

end Sayable

theorem Plain.sayable {name : String} (plain : Plain name) : Sayable name.toList where
  ne := plain.toList_ne_nil
  tidy := plain.tidy
  free := plain.free.of_subset (by decide)
  ends := plain.isEndMark_getLast?

/-- A verb phrase.  No verb stands in it by itself but perhaps the one it begins with. -/
structure Verbal (verb : String) : Prop where
  ne : verb.toList ≠ []
  tidy : Tidy verb.toList
  free : Free verbs (verb.toList ++ [' '])
  unmarked : '*' ∉ verb.toList

instance (verb : String) : Decidable (Verbal verb) :=
  decidable_of_iff (verb.toList ≠ [] ∧ Tidy verb.toList ∧ Free verbs (verb.toList ++ [' ']) ∧
      '*' ∉ verb.toList)
    ⟨fun ⟨ne, tidy, free, unmarked⟩ => ⟨ne, tidy, free, unmarked⟩,
      fun ⟨ne, tidy, free, unmarked⟩ => ⟨ne, tidy, free, unmarked⟩⟩

/-! ## From readings to facts -/

/-- An entity that is named in a bullet as it is declared, if it is. -/
structure Named (known : List String) (name : String) : Prop where
  plain : Plain name
  spelled : Spelled known name

/-- An entity that can be the subject of a bullet under its name. -/
structure Subject (known : List String) (name : String) : Prop extends Named known name where
  direct : Direct name

/-- The sentence of a bullet as it is written, with its period. -/
def written (subject verb : String) (object : List Char) : List Char :=
  sentence subject verb object ++ ['.']

/-- What is written behind a verb and read, with its bold names, as an object. -/
def Unmarks (marks object : List Char) (names : List String) : Prop :=
  unbold (marks ++ ['.']) = (object ++ ['.'], names.map String.toList)

theorem unmarks_self {object : List Char} (plain : '*' ∉ object) : Unmarks object object [] :=
  unbold_of_not_mem (by simp [plain])

theorem unmarks_marked {front tail : List Char} {name : String} (ne : name.toList ≠ [])
    (unmarked : '*' ∉ name.toList) (frontPlain : '*' ∉ front) (tailPlain : '*' ∉ tail) :
    Unmarks (front ++ (marked name.toList ++ tail)) (front ++ (name.toList ++ tail)) [name] := by
  have ending : unbold (tail ++ ['.']) = (tail ++ ['.'], []) :=
    unbold_of_not_mem (by simp [tailPlain])
  rw [Unmarks, List.append_assoc, List.append_assoc, unbold_append frontPlain,
    unbold_marked ne unmarked, ending]
  simp

/-- What is said of a bullet that tells a fact: it states it, and it can stand on a line. -/
structure Tells (known : List String) (body : List Char) (content : String × Assertion) :
    Prop where
  states : States known body content
  trimmed : Line.Trimmed body
  unbroken : ∀ c ∈ body, isLineBreak c = false

section States

variable {known : List String} {subject verb : String} {marks object : List Char}
  {names : List String}

theorem unbold_written (isSubject : Subject known subject) (verbal : Verbal verb)
    (unmarks : Unmarks marks object names) :
    unbold (written subject verb marks) =
      (sentence subject verb object ++ ['.'], names.map String.toList) := by
  have front : '*' ∉ subject.toList ++ ' ' :: (verb.toList ++ [' ']) := by
    simp [isSubject.plain.asterisk_not_mem, verbal.unmarked]
  have split (cs : List Char) : sentence subject verb cs ++ ['.'] =
      (subject.toList ++ ' ' :: (verb.toList ++ [' '])) ++ (cs ++ ['.']) := by
    simp [sentence]
  rw [written, split, unbold_append front, unmarks, split]

theorem trimmed_written (isSubject : Subject known subject) :
    Line.Trimmed (written subject verb marks) where
  ne := by simp [written]
  begins := by
    obtain ⟨c, rest, form⟩ := List.exists_cons_of_ne_nil isSubject.plain.toList_ne_nil
    have begins := isSubject.plain.tidy.not_isBlank_head?
    rw [form] at begins
    rw [written, sentence, form]
    exact begins
  ends := by
    rw [written, List.getLast?_concat]
    decide

/-- Nothing in a sentence breaks its line. -/
theorem unbroken_written (isSubject : Subject known subject) (verbal : Verbal verb)
    (unmarks : Unmarks marks object names) (tidy : Tidy (sentence subject verb object)) :
    ∀ c ∈ written subject verb marks, isLineBreak c = false := by
  intro c mem
  have whole : Tidy (sentence subject verb object ++ ['.']) := tidy.append (by decide)
  rcases mem_unbold mem with rfl | kept
  · decide
  · rw [unbold_written isSubject verbal unmarks] at kept
    exact whole.not_isLineBreak kept

/-- A bullet states the fact that the reading of its sentence is resolved to. -/
theorem tells_of_readAs (isSubject : Subject known subject) (verbal : Verbal verb)
    (unmarks : Unmarks marks object names) (closing : Closing object) {reading : Reading}
    (readAs : ReadAs (sentence subject verb object) reading) {assertion : Assertion}
    (resolved : ∀ ctx : Context, ctx.known = known → ctx.bold = (names.map Name.key).eraseDups →
      ctx.resolve reading = .ok (some (ctx.fact subject.toList assertion))) :
    Tells known (written subject verb marks) (subject, assertion) := by
  have tidy : Tidy (sentence subject verb object) :=
    isSubject.plain.tidy.join (verbal.tidy.join closing.tidy verbal.ne closing.ne)
      isSubject.plain.toList_ne_nil (by simp)
  have ends : ∀ c ∈ (sentence subject verb object).getLast?, isEndMark c = false := by
    have isSuffix : object <:+ sentence subject verb object :=
      ((List.suffix_cons ' ' object).trans (List.suffix_append verb.toList _)).trans
        ((List.suffix_cons ' ' _).trans (List.suffix_append subject.toList _))
    rw [getLast?_of_suffix isSuffix closing.ne]
    exact closing.ends
  have cleaned := clean_eq (unbold_written isSubject verbal unmarks) tidy ends
  have keys : (names.map String.toList).map (fun name => Name.key (String.ofList name)) =
      names.map Name.key := by
    simp [Function.comp_def]
  rw [keys] at cleaned
  refine ⟨?_, trimmed_written isSubject, unbroken_written isSubject verbal unmarks tidy⟩
  intro number owner
  have text : (contextOf number owner known (written subject verb marks)).text.toList =
      sentence subject verb object := by
    simp [contextOf, cleaned]
  have isFact := resolved (contextOf number owner known (written subject verb marks)) rfl
    (by simp [contextOf, cleaned])
  refine ⟨_, Context.classify_eq (text ▸ readAs) isFact, ?_⟩
  rw [Fact.content, Context.fact, Context.subject_eq isSubject.plain isSubject.spelled
    isSubject.direct]

end States

/-! ## Attributes -/

/-- A sample that can be given as an example: between its quotes it is read as it is written, and
neither a verb nor a mark in it could be taken for a part of the sentence. -/
structure Exemplary (quoted : Char × List Char) : Prop where
  quotable : Object.Quotable quoted
  free : Free verbs quoted.2
  unmarked : '*' ∉ quoted.2

section Attributes

variable {known : List String} {subject verb name : String} {type : Option SemanticType}
  {sample : Option (Char × List Char)}

theorem sayable_phrase (plain : Plain name) (exemplary : ∀ quoted ∈ sample, Exemplary quoted) :
    Sayable (Object.phrase name type sample) := by
  have typed : Sayable (name.toList ++ Object.typeSuffix type) := by
    cases type with
    | none => simpa [Object.typeSuffix] using plain.sayable
    | some type =>
      have suffix : Sayable ('(' :: type.name.toList ++ [')']) := by cases type <;> decide
      exact plain.sayable.join suffix
  rw [Object.phrase]
  cases sample with
  | none =>
    rw [Object.sampleSuffix_none, List.append_nil]
    exact typed
  | some quoted =>
    obtain ⟨quotable, free, -⟩ := exemplary quoted rfl
    have introduced : Sayable ("for example".toList ++ ' ' :: Object.enclosed quoted.1 quoted.2) :=
      Sayable.join (by decide) (Sayable.enclosed quotable free)
    have whole : name.toList ++ Object.typeSuffix type ++ Object.sampleSuffix (some quoted) =
        (name.toList ++ Object.typeSuffix type ++ [',']) ++
          ' ' :: ("for example".toList ++ ' ' :: Object.enclosed quoted.1 quoted.2) := by
      rw [List.append_assoc _ [',']]
      rfl
    rw [whole]
    exact typed.comma.join introduced

theorem asterisk_not_mem_phrase (plain : Plain name)
    (exemplary : ∀ quoted ∈ sample, Exemplary quoted) :
    '*' ∉ Object.phrase name type sample := by
  have typed : '*' ∉ Object.typeSuffix type := by
    rcases type with _ | type
    · simp [Object.typeSuffix]
    · cases type <;> decide
  have sampled : '*' ∉ Object.sampleSuffix sample := by
    cases sample with
    | none =>
      rw [Object.sampleSuffix_none]
      exact List.not_mem_nil
    | some quoted =>
      obtain ⟨⟨isQuote, -⟩, -, unmarked⟩ := exemplary quoted rfl
      have others : ∀ mark ∈ Object.quoteMarks, '*' ≠ mark := by decide
      rw [Object.sampleSuffix_some, List.mem_append, not_or]
      constructor
      · decide
      · simp [Object.enclosed, unmarked, others quoted.1 isQuote]
  rw [Object.phrase, List.mem_append, List.mem_append, not_or, not_or]
  exact ⟨⟨plain.asterisk_not_mem, typed⟩, sampled⟩

/-- The attribute that an attribute phrase is written for. -/
def attributeAssertion (name : String) (type : Option SemanticType)
    (sample : Option (Char × List Char)) (identifying : Bool) : Assertion :=
  .hasAttribute name (type.map (·.name)) (sample.map fun quoted => String.ofList quoted.2)
    identifying

variable (isSubject : Subject known subject) (plain : Plain name)
  (exemplary : ∀ quoted ∈ sample, Exemplary quoted)

include isSubject plain exemplary

theorem tells_identifier :
    Tells known (written subject "is identified by its" (Object.phrase name type sample))
      (subject, attributeAssertion name type sample true) := by
  have verbal : Verbal "is identified by its" := by decide
  have closing : Closing (Object.phrase name type sample) :=
    (sayable_phrase plain exemplary).closing
  refine tells_of_readAs isSubject verbal (unmarks_self (asterisk_not_mem_phrase plain exemplary))
    closing (readAs_identifiedBy isSubject.plain ?_ closing.free rfl closing.ne) ?_
  · decide
  · intro ctx _ _
    have object := Object.ofChars_eq plain type fun quoted mem => (exemplary quoted mem).quotable
    simp only [Context.resolve, object, if_neg plain.nonempty]
    rfl

/-- An attribute that has the name of a declared entity is told apart by its type. -/
theorem tells_attribute (isVerb : verb = "has a" ∨ verb = "has an")
    (typed : known.any (Name.key · == Name.key name) = true → type ≠ none) :
    Tells known (written subject verb (Object.phrase name type sample))
      (subject, attributeAssertion name type sample false) := by
  have verbal : Verbal verb := by rcases isVerb with rfl | rfl <;> decide
  have closing : Closing (Object.phrase name type sample) :=
    (sayable_phrase plain exemplary).closing
  have readAs : ReadAs (sentence subject verb (Object.phrase name type sample))
      (.has subject.toList (Object.phrase name type sample)) := by
    rcases isVerb with rfl | rfl <;>
      exact readAs_has isSubject.plain (by decide) closing.free closing.ne rfl rfl rfl rfl rfl
  refine tells_of_readAs isSubject verbal (unmarks_self (asterisk_not_mem_phrase plain exemplary))
    closing readAs ?_
  intro ctx isKnown noBold
  have object := Object.ofChars_eq plain type fun quoted mem => (exemplary quoted mem).quotable
  have noEntity : (ctx.bold.contains (Name.key name) ||
      (ctx.isEntity name && (type.map (·.name)).isNone &&
        (sample.map fun quoted => String.ofList quoted.2).isNone)) = false := by
    rw [Context.isEntity, noBold, isKnown]
    cases declared : known.any (Name.key · == Name.key name) with
    | false => simp
    | true => simp [typed declared]
  simp only [Context.resolve, object, Context.hasObject, if_neg plain.nonempty, noEntity]
  rfl

end Attributes

/-! ## Relationships -/

/-- A noun, perhaps a plural, from which a reader gets back to the name of an entity. -/
def LeadsBack (known : List String) (noun name : String) : Prop :=
  (known.find? (Name.key · == Name.key (Name.singular known noun))).getD
    (Name.display (Name.singular known noun)) = name

instance (known : List String) (noun name : String) : Decidable (LeadsBack known noun name) :=
  inferInstanceAs (Decidable (_ = _))

theorem Context.pluralEntity_eq {ctx : Context} {known : List String} {noun name : String}
    (isKnown : ctx.known = known) (leadsBack : LeadsBack known noun name) :
    ctx.pluralEntity (String.ofList noun.toList) = name := by
  rw [Context.pluralEntity, Context.entityName, isKnown, String.ofList_toList]
  exact leadsBack

theorem unmarks_name {name : String} (ne : name.toList ≠ []) (unmarked : '*' ∉ name.toList) :
    Unmarks (marked name.toList) name.toList [name] := by
  simpa using unmarks_marked ne unmarked (by simp : '*' ∉ []) (by simp : '*' ∉ [])

/-- A noun that may stand in bold at the end of a sentence, as a plural may that looks like a
verb. -/
structure Noun (noun : String) : Prop where
  closing : Closing noun.toList
  unmarked : '*' ∉ noun.toList

instance (noun : String) : Decidable (Noun noun) :=
  decidable_of_iff (Closing noun.toList ∧ '*' ∉ noun.toList)
    ⟨fun ⟨closing, unmarked⟩ => ⟨closing, unmarked⟩,
      fun ⟨closing, unmarked⟩ => ⟨closing, unmarked⟩⟩

theorem Plain.noun {name : String} (plain : Plain name) : Noun name :=
  ⟨plain.sayable.closing, plain.asterisk_not_mem⟩

theorem Noun.unmarks {noun : String} (isNoun : Noun noun) :
    Unmarks (marked noun.toList) noun.toList [noun] :=
  unmarks_name isNoun.closing.ne isNoun.unmarked

section Relationships

variable {known : List String} {subject verb target : String} (isSubject : Subject known subject)

include isSubject

theorem tells_manyToOne (named : Named known target) (isVerb : verb = "has a" ∨ verb = "has an") :
    Tells known (written subject verb (marked target.toList))
      (subject, .relatedTo target .manyToOne) := by
  have verbal : Verbal verb := by rcases isVerb with rfl | rfl <;> decide
  have closing := named.plain.sayable.closing
  have readAs : ReadAs (sentence subject verb target.toList)
      (.has subject.toList target.toList) := by
    rcases isVerb with rfl | rfl <;>
      exact readAs_has isSubject.plain (by decide) closing.free closing.ne rfl rfl rfl rfl rfl
  refine tells_of_readAs isSubject verbal named.plain.noun.unmarks closing readAs ?_
  intro ctx isKnown isBold
  have object : Object.ofChars target.toList =
      { name := target, declaredType := none, sample := none } := by
    have whole : Object.phrase target none none = target.toList := by
      rw [Object.phrase, Object.sampleSuffix_none, Object.typeSuffix, List.append_nil,
        List.append_nil]
    rw [← whole]
    exact Object.ofChars_eq named.plain none (by simp)
  have inBold : ctx.bold.contains (Name.key target) = true := by
    rw [isBold, List.contains_iff_mem, List.mem_eraseDups]
    exact List.mem_singleton_self _
  have spelled : ctx.entityName target = target :=
    Context.entityName_eq (isKnown ▸ named.spelled) named.plain.display_eq
  simp only [Context.resolve, object, Context.hasObject, if_neg named.plain.nonempty, inBold,
    Bool.true_or, if_true, spelled]

theorem tells_oneToOne (named : Named known target) :
    Tells known (written subject "has exactly one" (marked target.toList))
      (subject, .relatedTo target .oneToOne) := by
  have closing := named.plain.sayable.closing
  refine tells_of_readAs isSubject (by decide) named.plain.noun.unmarks closing
    (readAs_hasExactlyOne isSubject.plain (by decide) closing.free closing.ne rfl rfl rfl rfl)
    ?_
  intro ctx isKnown _
  have spelled : ctx.entityName target = target :=
    Context.entityName_eq (isKnown ▸ named.spelled) named.plain.display_eq
  simp only [Context.resolve, String.ofList_toList, spelled]

theorem tells_oneToMany {noun : String} (isNoun : Noun noun)
    (leadsBack : LeadsBack known noun target) :
    Tells known (written subject "has one or more" (marked noun.toList))
      (subject, .relatedTo target .oneToMany) := by
  have closing := isNoun.closing
  refine tells_of_readAs isSubject (by decide) isNoun.unmarks closing
    (readAs_hasMany isSubject.plain (by decide) closing.free closing.ne rfl rfl rfl) ?_
  intro ctx isKnown _
  simp only [Context.resolve, Context.pluralEntity_eq isKnown leadsBack]

end Relationships

/-! ## Rules -/

section Rules

variable {known : List String} {subject verb attr : String} (isSubject : Subject known subject)

include isSubject

theorem tells_minCount {noun target : String} {count : Nat} (isNoun : Noun noun)
    (leadsBack : LeadsBack known noun target) (readable : Count.Readable count) :
    Tells known (written subject "must have at least"
      (Count.digits count ++ ' ' :: marked noun.toList))
        (subject, .obeys (.minCount target count)) := by
  have closing := (Sayable.digits count).join_closing isNoun.closing
  have digitsPlain : ∀ c ∈ Count.digits count, '*' ≠ c := Count.forall_mem_digits (by decide) count
  have unmarks : Unmarks (Count.digits count ++ ' ' :: marked noun.toList)
      (Count.digits count ++ ' ' :: noun.toList) [noun] := by
    have front : '*' ∉ Count.digits count ++ [' '] := by
      rw [List.mem_append, not_or]
      exact ⟨fun mem => digitsPlain '*' mem rfl, by decide⟩
    simpa using unmarks_marked isNoun.closing.ne isNoun.unmarked front (by simp : '*' ∉ [])
  refine tells_of_readAs isSubject (by decide) unmarks closing
    (readAs_minCount isSubject.plain (by decide) closing.free rfl rfl
      (atLeast_eq count isNoun.closing.ne)) ?_
  intro ctx isKnown _
  simp only [Context.resolve, Count.read_digits readable,
    Context.pluralEntity_eq isKnown leadsBack]
  rfl

variable (plain : Plain attr) (isVerb : verb = "must have a" ∨ verb = "must have an")

include plain isVerb

theorem tells_inPast :
    Tells known (written subject verb (attr.toList ++ " in the past".toList))
      (subject, .obeys (.inPast attr)) := by
  have verbal : Verbal verb := by rcases isVerb with rfl | rfl <;> decide
  have closing : Closing (attr.toList ++ " in the past".toList) :=
    plain.sayable.join_closing (by decide : Closing "in the past".toList)
  have unmarked : '*' ∉ attr.toList ++ " in the past".toList := by
    rw [List.mem_append, not_or]
    exact ⟨plain.asterisk_not_mem, by decide⟩
  have readAs : ReadAs (sentence subject verb (attr.toList ++ " in the past".toList))
      (.inPast subject.toList attr.toList) := by
    rcases isVerb with rfl | rfl <;>
      exact readAs_inPast isSubject.plain (by decide) closing.free rfl rfl rfl rfl rfl
        (find?_past plain)
  refine tells_of_readAs isSubject verbal (unmarks_self unmarked) closing readAs ?_
  intro ctx _ _
  simp only [Context.resolve, String.ofList_toList, plain.display_eq]

theorem tells_like {pattern : String} (quoteless : Quoteless pattern)
    (exemplary : Exemplary ('\'', pattern.toList)) :
    Tells known (written subject verb
      (attr.toList ++ ' ' :: ("like ".toList ++ Object.enclosed '\'' pattern.toList)))
        (subject, .obeys (.like attr pattern)) := by
  have verbal : Verbal verb := by rcases isVerb with rfl | rfl <;> decide
  have quoted := Sayable.enclosed exemplary.quotable exemplary.free
  have condition : Sayable ("like ".toList ++ Object.enclosed '\'' pattern.toList) :=
    Sayable.join (by decide : Sayable "like".toList) quoted
  have closing := plain.sayable.join_closing condition.closing
  have unmarked : '*' ∉
      attr.toList ++ ' ' :: ("like ".toList ++ Object.enclosed '\'' pattern.toList) := by
    have inCondition : '*' ∉ ' ' :: "like ".toList := by decide
    rw [List.mem_append, ← List.cons_append, List.mem_append, not_or, not_or]
    refine ⟨plain.asterisk_not_mem, inCondition, ?_⟩
    simp [Object.enclosed, exemplary.unmarked]
  have isLast : (attr.toList ++
      ' ' :: ("like ".toList ++ Object.enclosed '\'' pattern.toList)).getLast? = some '\'' := by
    have isSuffix : ['\''] <:+ attr.toList ++
        ' ' :: ("like ".toList ++ Object.enclosed '\'' pattern.toList) :=
      (List.suffix_append ('\'' :: pattern.toList) _).trans
        ((List.suffix_append " like ".toList _).trans (List.suffix_append attr.toList _))
    rw [getLast?_of_suffix isSuffix (by simp)]
    rfl
  have readAs : ReadAs (sentence subject verb
      (attr.toList ++ ' ' :: ("like ".toList ++ Object.enclosed '\'' pattern.toList)))
        (.like subject.toList attr.toList pattern.toList) := by
    rcases isVerb with rfl | rfl <;>
      exact readAs_like isSubject.plain (by decide) closing.free rfl rfl rfl rfl rfl
        (find?_past_of_getLast? isLast) (findSome?_like plain quoteless subject.toList)
  refine tells_of_readAs isSubject verbal (unmarks_self unmarked) closing readAs ?_
  intro ctx _ _
  simp only [Context.resolve, String.ofList_toList, plain.display_eq]

theorem tells_notNull (timeless : Timeless attr) :
    Tells known (written subject verb attr.toList) (subject, .obeys (.notNull attr)) := by
  have verbal : Verbal verb := by rcases isVerb with rfl | rfl <;> decide
  have closing := plain.sayable.closing
  have readAs : ReadAs (sentence subject verb attr.toList)
      (.notNull subject.toList attr.toList) := by
    rcases isVerb with rfl | rfl <;>
      exact readAs_notNull isSubject.plain (by decide) closing.free rfl rfl rfl rfl rfl
        closing.ne (find?_past_of_timeless timeless) (cuts_like_eq_nil plain)
  refine tells_of_readAs isSubject verbal (unmarks_self plain.asterisk_not_mem) closing readAs ?_
  intro ctx _ _
  simp only [Context.resolve, String.ofList_toList, plain.display_eq]

end Rules

/-! ## Subtypes -/

section Subtypes

variable {known : List String} {subject verb base : String} (isSubject : Subject known subject)
  (named : Named known base) (isVerb : verb = "is a" ∧ ¬Categorical base ∨ verb = "is an")

include isSubject named isVerb

/-- A subtype is read as its base and its condition, and the condition is looked at by itself. -/
theorem tells_isA {condition : Option (List Char)}
    (conditionCloses : ∀ text ∈ condition, Closing text ∧ '*' ∉ text)
    {assertion : Assertion}
    (resolved : ∀ ctx : Context, ctx.known = known → ctx.bold = [Name.key base] →
      ctx.resolve (.isA subject.toList base.toList condition) =
        .ok (some (ctx.fact subject.toList assertion))) :
    Tells known (written subject verb (marked base.toList ++ conditionTail condition))
      (subject, assertion) := by
  have verbal : Verbal verb := by rcases isVerb with ⟨rfl, -⟩ | rfl <;> decide
  have tailPlain : '*' ∉ conditionTail condition := by
    cases condition with
    | none => exact List.not_mem_nil
    | some text =>
      have inWord : '*' ∉ ' ' :: "with ".toList := by decide
      rw [conditionTail, ← List.cons_append, List.mem_append, not_or]
      exact ⟨inWord, (conditionCloses text rfl).2⟩
  have closing : Closing (base.toList ++ conditionTail condition) := by
    cases condition with
    | none =>
      rw [conditionTail, List.append_nil]
      exact named.plain.sayable.closing
    | some text =>
      have introduced : Closing ("with ".toList ++ text) :=
        Sayable.join_closing (by decide : Sayable "with".toList) (conditionCloses text rfl).1
      exact named.plain.sayable.join_closing introduced
  have parts := baseAndCondition_eq named.plain (fun text (mem : text ∈ condition) =>
    (conditionCloses text mem).1.ne)
  have readAs : ReadAs (sentence subject verb (base.toList ++ conditionTail condition))
      (.isA subject.toList base.toList condition) := by
    rcases isVerb with ⟨rfl, other⟩ | rfl
    · exact readAs_isA isSubject.plain (by decide) closing.free rfl
        (stripAny_isA other condition) parts
    · exact readAs_isA isSubject.plain (by decide) closing.free rfl rfl parts
  refine tells_of_readAs isSubject verbal
    (unmarks_marked named.plain.toList_ne_nil named.plain.asterisk_not_mem (by simp : '*' ∉ [])
      tailPlain) closing readAs ?_
  intro ctx isKnown isBold
  exact resolved ctx isKnown isBold

theorem tells_isA_none :
    Tells known (written subject verb (marked base.toList ++ conditionTail none))
      (subject, .isA base none) := by
  refine tells_isA isSubject named isVerb (by simp) ?_
  intro ctx isKnown isBold
  have isEntity : ctx.isEntity base = true :=
    Context.isEntity_of_mem_bold (by rw [isBold]; exact List.mem_singleton_self _)
  have spelled : ctx.entityName base = base :=
    Context.entityName_eq (isKnown ▸ named.spelled) named.plain.display_eq
  simp only [Context.resolve, String.ofList_toList, named.plain.display_eq, isEntity, if_true,
    spelled]

theorem tells_isA_related {noun target : String} {count : Nat} (isNoun : Noun noun)
    (leadsBack : LeadsBack known noun target) (readable : Count.Readable count) :
    Tells known (written subject verb (marked base.toList ++
      conditionTail (some ("at least ".toList ++ (Count.digits count ++ ' ' :: noun.toList)))))
        (subject, .isA base (some (.related target count))) := by
  have closing : Closing ("at least ".toList ++ (Count.digits count ++ ' ' :: noun.toList)) :=
    Sayable.join_closing (by decide : Sayable "at least".toList)
      ((Sayable.digits count).join_closing isNoun.closing)
  have digitsPlain : ∀ c ∈ Count.digits count, '*' ≠ c := Count.forall_mem_digits (by decide) count
  have unmarked : '*' ∉ "at least ".toList ++ (Count.digits count ++ ' ' :: noun.toList) := by
    rw [List.mem_append, List.mem_append, List.mem_cons, not_or, not_or, not_or]
    exact ⟨by decide, fun mem => digitsPlain '*' mem rfl, by decide, isNoun.unmarked⟩
  refine tells_isA isSubject named isVerb (by rintro text ⟨⟩; exact ⟨closing, unmarked⟩) ?_
  intro ctx isKnown _
  have spelled : ctx.entityName base = base :=
    Context.entityName_eq (isKnown ▸ named.spelled) named.plain.display_eq
  have condition : ctx.condition
      (squeeze ("at least ".toList ++ (Count.digits count ++ ' ' :: noun.toList))) =
        .ok (some (.related target count)) := by
    rw [closing.tidy, Context.condition, atLeast_eq count isNoun.closing.ne]
    simp only [Count.read_digits readable, Context.pluralEntity_eq isKnown leadsBack]
    rfl
  simp only [Context.resolve, String.ofList_toList, named.plain.display_eq, condition, spelled]
  rfl

theorem tells_isA_hasAttribute {article attr : String} (plain : Plain attr)
    (isArticle : article = "a" ∨ article = "an") (notBase : Name.key attr ≠ Name.key base)
    (notKnown : known.any (Name.key · == Name.key attr) = false) :
    Tells known (written subject verb (marked base.toList ++
      conditionTail (some (article.toList ++ ' ' :: attr.toList))))
        (subject, .isA base (some (.hasAttribute attr))) := by
  have closing : Closing (article.toList ++ ' ' :: attr.toList) := by
    have front : Sayable article.toList := by rcases isArticle with rfl | rfl <;> decide
    exact front.join_closing plain.sayable.closing
  have unmarked : '*' ∉ article.toList ++ ' ' :: attr.toList := by
    have inArticle : '*' ∉ article.toList := by rcases isArticle with rfl | rfl <;> decide
    rw [List.mem_append, List.mem_cons, not_or, not_or]
    exact ⟨inArticle, by decide, plain.asterisk_not_mem⟩
  refine tells_isA isSubject named isVerb (by rintro text ⟨⟩; exact ⟨closing, unmarked⟩) ?_
  intro ctx isKnown isBold
  have spelled : ctx.entityName base = base :=
    Context.entityName_eq (isKnown ▸ named.spelled) named.plain.display_eq
  have noEntity : ctx.isEntity attr = false := by
    rw [Context.isEntity, isBold, isKnown, notKnown]
    simp [notBase]
  have noCount : stripPhrase "at least ".toList (article.toList ++ ' ' :: attr.toList) = none := by
    rcases isArticle with rfl | rfl <;> rfl
  have notSome : afterPhrase ["one or more ", "some ", "any "]
      (article.toList ++ ' ' :: attr.toList) = none := by
    rcases isArticle with rfl | rfl <;> rfl
  have isOne : afterPhrase ["a ", "an "] (article.toList ++ ' ' :: attr.toList) =
      some attr.toList := by
    have stripped : stripAny ["a ", "an "] (article.toList ++ ' ' :: attr.toList) =
        [attr.toList] := by
      rcases isArticle with rfl | rfl <;> rfl
    rw [afterPhrase, stripped]
    simp [plain.toList_ne_nil]
  have condition : ctx.condition (squeeze (article.toList ++ ' ' :: attr.toList)) =
      .ok (some (.hasAttribute attr)) := by
    rw [closing.tidy, Context.condition, noCount]
    simp only [Option.bind_none, notSome, isOne, String.ofList_toList, plain.display_eq, noEntity]
    rfl
  simp only [Context.resolve, String.ofList_toList, named.plain.display_eq, condition, spelled]
  rfl

end Subtypes

end FactModel.Bullet
