import FactModel.Proofs.View.Housing
import FactModel.Query.Keyword
import FactModel.Query.Plan

/-!
# What keywords resolve to

A question that is resolved by keywords is about the entity of the longest form that it mentions, in
terms of attributes that the entity has.  Such an intent is complete, and all that may be in the way
of grounding it is that an attribute has no column in the view of the entity, or that there is no
date to take the greatest or least of.
-/

namespace FactModel

/-! ## Phrases that a text mentions -/

namespace Text

/-- A phrase is mentioned in a text: it stands there, in any case, between word boundaries. -/
def Mentions (phrase text : List Char) : Prop :=
  ∃ front written back, text = front ++ (written ++ back) ∧ Spells phrase written ∧
    boundary front.getLast? (written ++ back).head? = true ∧
    boundary (front ++ written).getLast? back.head? = true

theorem wholePhrase_eq_some_iff {phrase cs written rest : List Char} {before : Option Char} :
    wholePhrase phrase before cs = some (written, rest) ↔ cs = written ++ rest ∧
      Spells phrase written ∧ boundary before cs.head? = true ∧
      boundary (written.getLast?.or before) rest.head? = true := by
  have front {ds : List Char} (spells : Spells phrase ds) (tail : List Char) :
      (ds ++ tail).take phrase.length = ds := by
    rw [spells.length_eq, List.take_left]
  unfold wholePhrase
  constructor
  · intro found
    split at found
    · next opens =>
      split at found
      · next tail stripped =>
        obtain ⟨ds, spells, rfl⟩ := stripPhrase_eq_some_iff.mp stripped
        simp only [front spells] at found
        split at found
        · next closes =>
          cases found
          exact ⟨rfl, spells, opens, closes⟩
        · contradiction
      · contradiction
    · contradiction
  · rintro ⟨rfl, spells, opens, closes⟩
    rw [if_pos opens, stripPhrase_eq_some_iff.mpr ⟨written, spells, rfl⟩]
    simp only [front spells, closes, if_pos]

/-- A phrase is found just where it is mentioned, the induction being on what follows `before`. -/
theorem isSome_findWhole_iff {phrase cs : List Char} {before : Option Char} :
    (findWhole phrase before cs).isSome = true ↔ ∃ front written back,
      cs = front ++ (written ++ back) ∧ Spells phrase written ∧
        boundary (front.getLast?.or before) (written ++ back).head? = true ∧
        boundary ((front ++ written).getLast?.or before) back.head? = true := by
  have here (cs : List Char) (before : Option Char) :
      (wholePhrase phrase before cs).isSome = true ↔ ∃ written back, cs = written ++ back ∧
        Spells phrase written ∧ boundary before (written ++ back).head? = true ∧
        boundary (written.getLast?.or before) back.head? = true := by
    simp only [Option.isSome_iff_exists, Prod.exists, wholePhrase_eq_some_iff]
    refine exists_congr fun written => exists_congr fun back => and_congr_right ?_
    rintro rfl
    rfl
  have behind (c : Char) (front : List Char) (before : Option Char) :
      (c :: front).getLast?.or before = front.getLast?.or (some c) := by
    rw [List.getLast?_cons]
    cases front.getLast? <;> rfl
  induction cs generalizing before with
  | nil =>
    rw [findWhole, Option.isSome_map, here]
    constructor
    · rintro ⟨written, back, empty, spells, opens, closes⟩
      exact ⟨[], written, back, empty, spells, opens, closes⟩
    · rintro ⟨front, written, back, empty, spells, opens, closes⟩
      obtain ⟨rfl, nothing⟩ := List.append_eq_nil_iff.mp empty.symm
      exact ⟨written, back, nothing.symm, spells, opens, closes⟩
  | cons c cs ih =>
    rw [findWhole]
    cases stands : wholePhrase phrase before (c :: cs) with
    | some found =>
      obtain ⟨written, back, whole, spells, opens, closes⟩ :=
        (here (c :: cs) before).mp (by simp [stands])
      exact iff_of_true rfl ⟨[], written, back, whole, spells, opens, closes⟩
    | none =>
      refine ih.trans ?_
      constructor
      · rintro ⟨front, written, back, rfl, spells, opens, closes⟩
        refine ⟨c :: front, written, back, rfl, spells, ?_, ?_⟩
        · rwa [behind]
        · rwa [List.cons_append, behind]
      · rintro ⟨front, written, back, whole, spells, opens, closes⟩
        cases front with
        | nil =>
          have stood := (here (c :: cs) before).mpr ⟨written, back, whole, spells, opens, closes⟩
          simp [stands] at stood
        | cons d front =>
          obtain ⟨rfl, rfl⟩ := List.cons.inj whole
          refine ⟨front, written, back, rfl, spells, ?_, ?_⟩
          · rwa [← behind]
          · rwa [← behind, ← List.cons_append]

theorem mentions_iff {phrase text : List Char} :
    Mentions phrase text ↔ (findWhole phrase none text).isSome = true := by
  simp only [isSome_findWhole_iff, Option.or_none, Mentions]

theorem of_search_eq_some {α : Type} {read : List Char → Option α} {cs front : List Char} {a : α}
    (found : search read cs = some (front, a)) : ∃ tail, read tail = some a := by
  induction cs generalizing front with
  | nil =>
    rw [search, Option.map_eq_some_iff] at found
    obtain ⟨b, reads, same⟩ := found
    cases same
    exact ⟨[], reads⟩
  | cons c cs ih =>
    rw [search] at found
    split at found
    · next b reads =>
      cases found
      exact ⟨c :: cs, reads⟩
    · obtain ⟨⟨later, b⟩, finds, same⟩ := Option.map_eq_some_iff.mp found
      cases same
      exact ih finds

end Text

namespace Keyword

open Text

/-! ## The entity -/

/-- A form of the name of an entity: the name or its plural. -/
def IsForm (e : Entity) (form : String) : Prop :=
  form = Name.plural e.name ∨ form = e.name

theorem mem_mentions_iff {g : Graph} {text : List Char} {m : Mention} :
    m ∈ mentions g text ↔ ∃ e ∈ g.entities, ∃ form, IsForm e form ∧
      mention? text e form = some m := by
  simp [mentions, IsForm]

theorem of_mention?_eq_some {text : List Char} {e : Entity} {form : String} {m : Mention}
    (found : mention? text e form = some m) :
    m.entity = e ∧ m.form = form.toList ∧ Mentions form.toList text := by
  obtain ⟨written, finds, rfl⟩ := Option.map_eq_some_iff.mp found
  exact ⟨rfl, rfl, mentions_iff.mpr (by simp [finds])⟩

/-- The mentions stand in order of entities. -/
theorem pairwise_mentions {g : Graph} (indexed : Arena.Indexed Entity.index g.entities)
    (text : List Char) :
    (mentions g text).Pairwise fun m n => m.entity.index ≤ n.entity.index := by
  have entity_eq {e : Entity} {m : Mention}
      (mem : m ∈ [Name.plural e.name, e.name].filterMap (mention? text e)) : m.entity = e := by
    obtain ⟨form, -, found⟩ := List.mem_filterMap.mp mem
    exact (of_mention?_eq_some found).1
  refine List.pairwise_flatMap.mpr ⟨fun e _ => ?_, indexed.pairwise.imp fun {e f} before => ?_⟩
  · refine List.pairwise_iff_getElem.mpr fun i j iBound jBound _ => ?_
    rw [entity_eq (List.getElem_mem iBound), entity_eq (List.getElem_mem jBound)]
  · intro m mMem n nMem
    rw [entity_eq mMem, entity_eq nMem]
    exact before.le

/-- The longest mention is longer than those before it, and no shorter than those behind. -/
theorem of_longest?_eq_some {ms : List Mention} {m : Mention} (longest : longest? ms = some m) :
    ∃ front back, ms = front ++ m :: back ∧ (∀ n ∈ front, n.form.length < m.form.length) ∧
      ∀ n ∈ back, n.form.length ≤ m.form.length := by
  induction ms generalizing m with
  | nil => contradiction
  | cons first rest ih =>
    rw [longest?] at longest
    cases later : longest? rest with
    | none =>
      have empty : rest = [] := by
        cases rest with
        | nil => rfl
        | cons n others =>
          rw [longest?] at later
          split at later
          · contradiction
          · split at later <;> contradiction
      simp only [later, Option.some.injEq] at longest
      exact ⟨[], rest, by rw [longest, List.nil_append], by simp, by simp [empty]⟩
    | some n =>
      obtain ⟨front, back, rfl, shorter, noLonger⟩ := ih later
      simp only [later] at longest
      split at longest
      · next less =>
        obtain rfl := Option.some.inj longest
        exact ⟨first :: front, back, rfl, List.forall_mem_cons.mpr ⟨less, shorter⟩, noLonger⟩
      · next notLess =>
        obtain rfl := Option.some.inj longest
        have least := Nat.le_of_not_lt notLess
        refine ⟨[], front ++ n :: back, rfl, by simp, fun k mem => ?_⟩
        rcases List.mem_append.mp mem with before | behind
        · exact (shorter k before).le.trans least
        · rcases List.mem_cons.mp behind with rfl | after
          · exact least
          · exact (noLonger k after).trans least

/-- A form of the name of an entity that a text mentions, none of any entity being longer, and none
of an earlier entity as long. -/
structure IsLongest (g : Graph) (text : List Char) (e : Entity) (form : String) : Prop where
  isForm : IsForm e form
  mentioned : Mentions form.toList text
  longest : ∀ f ∈ g.entities, ∀ other, IsForm f other → Mentions other.toList text →
    other.length ≤ form.length ∧ (other.length = form.length → e.index ≤ f.index)

theorem isLongest_of_longest? {g : Graph} (indexed : Arena.Indexed Entity.index g.entities)
    {text : List Char} {m : Mention} (longest : longest? (mentions g text) = some m) :
    m.entity ∈ g.entities ∧ ∃ form, IsLongest g text m.entity form := by
  obtain ⟨front, back, split, shorter, noLonger⟩ := of_longest?_eq_some longest
  obtain ⟨e, eMem, form, isForm, found⟩ : ∃ e ∈ g.entities, ∃ form, IsForm e form ∧
      mention? text e form = some m :=
    mem_mentions_iff.mp (split ▸ List.mem_append_right _ List.mem_cons_self)
  obtain ⟨rfl, isWritten, mentioned⟩ := of_mention?_eq_some found
  refine ⟨eMem, form, isForm, mentioned, fun f fMem other otherForm otherMentioned => ?_⟩
  obtain ⟨written, finds⟩ := Option.isSome_iff_exists.mp (mentions_iff.mp otherMentioned)
  have otherFound : mention? text f other =
      some { entity := f, form := other.toList, written } := by
    rw [mention?, finds, Option.map_some]
  have mem := mem_mentions_iff.mpr ⟨f, fMem, other, otherForm, otherFound⟩
  have sorted := pairwise_mentions indexed text
  rw [split] at mem sorted
  rw [← String.length_toList, ← String.length_toList, ← isWritten]
  rcases List.mem_append.mp mem with before | behind
  · have less := shorter _ before
    exact ⟨less.le, fun same => absurd same less.ne⟩
  · rcases List.mem_cons.mp behind with here | after
    · rw [← here]
      exact ⟨le_rfl, fun _ => le_rfl⟩
    · exact ⟨noLonger _ after, fun _ =>
        (List.pairwise_cons.mp (List.pairwise_append.mp sorted).2.1).1 _ after⟩

/-! ## Attributes, filters and keys -/

/-- Whether a name is that of an attribute that a question may ask for: an explicit one that is no
reference, or a derived one. -/
def IsAttribute (g : Graph) (entity : Nat) (name : String) : Prop :=
  (∃ a ∈ g.attributesOf entity, a.type ≠ .reference ∧ a.name = name) ∨
    ∃ d ∈ g.derivedOf entity, d.name = name

theorem mem_attributeNames_iff {g : Graph} {entity : Nat} {name : String} :
    name ∈ attributeNames g entity ↔ IsAttribute g entity name := by
  simp [attributeNames, IsAttribute, and_assoc]

theorem of_attribute?_eq_some {text : List Char} {names : List String} {left : Option String}
    {name : String} (found : attribute? text names left = some name) :
    name ∈ names ∧ some name ≠ left := by
  have accepted := List.find?_some found
  rw [Bool.and_eq_true, bne_iff_ne] at accepted
  exact ⟨List.mem_of_find?_eq_some found, accepted.1⟩

theorem of_filter?_eq_some {text : List Char} {names : List String} {name value : String}
    (found : filter? text names = some (name, value)) : name ∈ names ∧ value ≠ "" := by
  obtain ⟨other, mem, filters⟩ := List.exists_of_findSome?_eq_some found
  obtain ⟨written, -, cleaned⟩ := Option.bind_eq_some_iff.mp filters
  extract_lets bare at cleaned
  split at cleaned
  · contradiction
  · next filled =>
    cases cleaned
    exact ⟨mem, fun empty => filled (by simpa using congrArg String.toList empty)⟩

/-- Cleaning a quoted value takes off the quotes. -/
theorem cleanValue_quoted {quote : Char} (isQuote : quote = '\'' ∨ quote = '"')
    (body : List Char) : cleanValue (quote :: body ++ [quote]) = body := by
  have solid : isBlank quote = false := by
    rcases isQuote with rfl | rfl <;> decide
  have ends {p : Char → Bool} (kept : p quote = false) :
      ∀ c ∈ (quote :: body ++ [quote]).getLast?, p c = false := by
    rw [List.getLast?_concat]
    rintro c ⟨⟩
    exact kept
  have trimmed : trim (quote :: body ++ [quote]) = quote :: body ++ [quote] :=
    trim_eq_self (by simp [solid]) (ends solid)
  have kept : trimEnd (fun c => c = '?' ∨ c = '.' ∨ c = '!') (quote :: body ++ [quote]) =
      quote :: body ++ [quote] := by
    refine trimEnd_eq_self (ends ?_)
    rcases isQuote with rfl | rfl <;> decide
  rw [cleanValue, trimmed, kept, trimmed]
  simp [isQuote]

/-- Cleaning a value leaves what is neither a blank nor one of the marks that are cleaned off. -/
theorem mem_cleanValue {value : List Char} {c : Char} (mem : c ∈ value) (solid : isBlank c = false)
    (unmarked : c ∉ ['?', '.', '!', '\'', '"']) : c ∈ cleanValue value := by
  simp only [List.mem_cons, List.not_mem_nil, or_false, not_or] at unmarked
  obtain ⟨notAsk, notStop, notCall, notSingle, notDouble⟩ := unmarked
  have bare : c ∈ trim (trimEnd (fun c => c = '?' ∨ c = '.' ∨ c = '!') (trim value)) :=
    mem_trim (mem_trimEnd (mem_trim mem solid) (by simp [notAsk, notStop, notCall])) solid
  unfold cleanValue
  cases isBare : trim (trimEnd (fun c => c = '?' ∨ c = '.' ∨ c = '!') (trim value)) with
  | nil => rwa [isBare] at bare
  | cons first rest =>
    rw [isBare] at bare
    simp only
    split
    · next quoted =>
      obtain ⟨isQuote, closing⟩ := quoted
      have differs : c ≠ first := by
        rintro rfl
        exact isQuote.elim notSingle notDouble
      have inside := (List.mem_cons.mp bare).resolve_left differs
      rw [← List.dropLast_append_getLast? _ closing, List.mem_append] at inside
      exact inside.resolve_right fun isLast => differs (List.mem_singleton.mp isLast)
    · exact bare

theorem of_quotedKey_eq_some {quote : Char} {cs key : List Char}
    (found : quotedKey quote cs = some key) : ∃ body ≠ [], key = quote :: body ++ [quote] := by
  cases cs with
  | nil => contradiction
  | cons c cs =>
    simp only [quotedKey] at found
    split at found
    · next quoted => exact ⟨_, quoted.2.1, (Option.some.inj found).symm⟩
    · contradiction

/-- A key is not empty when it is cleaned: it stands between quotes, or there is a digit in it. -/
theorem cleanValue_ne_nil {cs key : List Char} (found : keyAt cs = some key) :
    cleanValue key ≠ [] := by
  rw [keyAt, Option.or_eq_some_iff, Option.or_eq_some_iff] at found
  rcases found with (single | ⟨-, double⟩) | ⟨-, word⟩
  · obtain ⟨body, filled, rfl⟩ := of_quotedKey_eq_some single
    rwa [cleanValue_quoted (.inl rfl)]
  · obtain ⟨body, filled, rfl⟩ := of_quotedKey_eq_some double
    rwa [cleanValue_quoted (.inr rfl)]
  · split at word
    · next digits =>
      obtain rfl := Option.some.inj word
      obtain ⟨c, mem, decimal⟩ := List.any_eq_true.mp digits
      have solid : isBlank c = false := by
        simpa using List.all_eq_true.mp List.all_takeWhile c mem
      refine List.ne_nil_of_mem (mem_cleanValue mem solid fun isMark => ?_)
      have plain : ∀ mark ∈ ['?', '.', '!', '\'', '"'], isDecimal mark = false := by decide
      rw [plain c isMark] at decimal
      contradiction
    · contradiction

theorem of_key?_eq_some {written text : List Char} {key : String}
    (found : key? written text = some key) : key ≠ "" := by
  obtain ⟨⟨front, raw⟩, reads, rfl⟩ := Option.map_eq_some_iff.mp found
  obtain ⟨tail, behind⟩ := of_search_eq_some reads
  obtain ⟨rest, -, marked⟩ := Option.bind_eq_some_iff.mp behind
  obtain ⟨place, -, here⟩ := List.exists_of_findSome?_eq_some marked
  exact fun empty => cleanValue_ne_nil here (by simpa using congrArg String.toList empty)

/-! ## Intents -/

/-- An intent says all that its shape calls for, in terms of an entity that a text mentions.

* The entity is that of the longest form that the text mentions.
* The attributes named are ones that a question about the entity may ask for, and are different.
* A filter is an attribute along with a value that is not empty.
* A filter of rows has a filter, and a look-up has a key that is not empty. -/
structure Coherent (g : Graph) (text : List Char) (e : Entity) (i : Intent) : Prop where
  entity : i.entity = e.name
  longest : ∃ form, IsLongest g text e form
  attributes : ∀ name, i.attr = some name ∨ i.filterAttr = some name → IsAttribute g e.index name
  different : ∀ name, i.attr = some name → i.filterAttr ≠ some name
  paired : i.filterAttr.isSome = i.filterValue.isSome
  filled : i.filterValue ≠ some ""
  filtered : i.shape = .filter → i.filterAttr.isSome = true
  keyed : i.shape = .lookup → ∃ key, i.keyValue = some key ∧ key ≠ ""

/-- What an intent is made of: the filter, an attribute other than that of the filter, and the key
in a look-up. -/
theorem of_intentOf_eq_some {g : Graph} {text : List Char} {m : Mention} {i : Intent}
    (made : intentOf g text m = some i) {filter : Option (String × String)}
    (filters : filter? text (attributeNames g m.entity.index) = filter) :
    i.entity = m.entity.name ∧ i.filterAttr = filter.map (·.1) ∧ i.filterValue = filter.map (·.2) ∧
      (∀ name, i.attr = some name →
        attribute? text (attributeNames g m.entity.index) (filter.map (·.1)) = some name) ∧
      (i.shape = .filter → filter.isSome = true) ∧
      (i.shape = .lookup → ∃ key, key? m.written text = some key ∧ i.keyValue = some key) := by
  simp only [intentOf, filters] at made
  split at made
  · obtain rfl := Option.some.inj made
    exact ⟨rfl, rfl, rfl, nofun, nofun, nofun⟩
  · cases filter with
    | some found =>
      obtain rfl := Option.some.inj made
      exact ⟨rfl, rfl, rfl, fun _ => id, fun _ => rfl, nofun⟩
    | none =>
      simp only at made
      split at made
      · obtain rfl := Option.some.inj made
        exact ⟨rfl, rfl, rfl, fun _ => id, nofun, nofun⟩
      · split at made
        · obtain rfl := Option.some.inj made
          exact ⟨rfl, rfl, rfl, fun _ => id, nofun, nofun⟩
        · obtain ⟨key, found, rfl⟩ := Option.map_eq_some_iff.mp made
          exact ⟨rfl, rfl, rfl, fun _ => id, nofun, fun _ => ⟨key, found, rfl⟩⟩

theorem coherent_of_intentOf {g : Graph} {text : List Char} {m : Mention} {i : Intent}
    (longest : ∃ form, IsLongest g text m.entity form) (made : intentOf g text m = some i) :
    Coherent g text m.entity i := by
  obtain ⟨entity, filterAttr, filterValue, attr, filtered, keyed⟩ := of_intentOf_eq_some made rfl
  have filters {name value : String}
      (found : filter? text (attributeNames g m.entity.index) = some (name, value)) :
      IsAttribute g m.entity.index name ∧ value ≠ "" := by
    obtain ⟨mem, filled⟩ := of_filter?_eq_some found
    exact ⟨mem_attributeNames_iff.mp mem, filled⟩
  constructor
  · exact entity
  · exact longest
  · rintro name (asked | filteredBy)
    · exact mem_attributeNames_iff.mp (of_attribute?_eq_some (attr name asked)).1
    · rw [filterAttr, Option.map_eq_some_iff] at filteredBy
      obtain ⟨⟨_, value⟩, found, rfl⟩ := filteredBy
      exact (filters found).1
  · intro name asked same
    exact (of_attribute?_eq_some (attr name asked)).2 (same.symm.trans filterAttr)
  · rw [filterAttr, filterValue, Option.isSome_map, Option.isSome_map]
  · intro empty
    rw [filterValue, Option.map_eq_some_iff] at empty
    obtain ⟨⟨name, _⟩, found, rfl⟩ := empty
    exact (filters found).2 rfl
  · intro isFilter
    rw [filterAttr, Option.isSome_map]
    exact filtered isFilter
  · intro isLookup
    obtain ⟨key, found, given⟩ := keyed isLookup
    exact ⟨key, given, of_key?_eq_some found⟩

end Keyword

/-! ## Grounding -/

namespace Planner

/-- What keeps an intent about an entity from being grounded in the view of the entity: an attribute
that is named has no column, or a greatest or least value is asked for without naming an attribute
and there is no date. -/
inductive Obstacle (e : Entity) (v : View) (i : Intent) : Ungrounded → Prop where
  | column {name : String} (named : i.attr = some name ∨ i.filterAttr = some name)
      (missing : v.column? name = none) : Obstacle e v i (.unknownAttribute e.name name)
  | date (extreme : i.shape = .min ∨ i.shape = .max) (unnamed : i.attr = none)
      (missing : v.firstOfType? .date = none) : Obstacle e v i (.noDate e.name i.shape)

/-- A planner grounds an intent about an entity in a view, or else tells of an obstacle; it grounds
the intent where there is none. -/
def Decides (p : Planner) (e : Entity) (v : View) (i : Intent) : Prop :=
  (∃ cause, Obstacle e v i cause ∧ p.ground i = .error cause) ∨
    (∀ cause, ¬Obstacle e v i cause) ∧
      ∃ attr, p.ground i = .ok ({ i with entity := e.name, attr }, v)

variable {e : Entity} {v : View} {i : Intent}

theorem checkAttribute_cases (e : Entity) (v : View) (asked : Option String) :
    (checkAttribute e v asked = .ok () ∧ ∀ name, asked = some name → v.column? name ≠ none) ∨
      ∃ name, asked = some name ∧ v.column? name = none ∧
        checkAttribute e v asked = .error (.unknownAttribute e.name name) := by
  cases asked with
  | none => exact .inl ⟨rfl, nofun⟩
  | some name =>
    cases found : v.column? name with
    | none => exact .inr ⟨name, rfl, found, by simp [checkAttribute, found]⟩
    | some c =>
      refine .inl ⟨by simp [checkAttribute, found], ?_⟩
      rintro _ ⟨⟩
      simp [found]

theorem defaultAttribute_cases (e : Entity) (v : View) (i : Intent) :
    ((∃ attr, defaultAttribute e v i = .ok attr) ∧
      ¬((i.shape = .min ∨ i.shape = .max) ∧ i.attr = none ∧ v.firstOfType? .date = none)) ∨
      (i.shape = .min ∨ i.shape = .max) ∧ i.attr = none ∧ v.firstOfType? .date = none ∧
        defaultAttribute e v i = .error (.noDate e.name i.shape) := by
  unfold defaultAttribute
  by_cases isOpen : (i.shape = .min ∨ i.shape = .max) ∧ i.attr = none
  · rw [if_pos isOpen]
    cases found : v.firstOfType? .date with
    | none => exact .inr ⟨isOpen.1, isOpen.2, rfl, rfl⟩
    | some c => exact .inl ⟨⟨_, rfl⟩, by simp⟩
  · rw [if_neg isOpen]
    exact .inl ⟨⟨_, rfl⟩, fun missing => isOpen ⟨missing.1, missing.2.1⟩⟩

/-- An intent about a known entity is decided in the view of the entity. -/
theorem decides_of_entity? {p : Planner} (known : p.entity? i.entity = some (e, v)) :
    p.Decides e v i := by
  have grounds : p.ground i = (checkAttribute e v i.attr).bind fun _ =>
      (checkAttribute e v i.filterAttr).bind fun _ =>
        (defaultAttribute e v i).bind fun attr => .ok ({ i with entity := e.name, attr }, v) := by
    rw [ground, known]
    rfl
  rw [Decides, grounds]
  rcases checkAttribute_cases e v i.attr with ⟨asked, hasAsked⟩ | ⟨name, isAsked, missing, asked⟩
  · rcases checkAttribute_cases e v i.filterAttr with
      ⟨filter, hasFilter⟩ | ⟨name, isFilter, missing, filter⟩
    · rcases defaultAttribute_cases e v i with
        ⟨⟨attr, filled⟩, dated⟩ | ⟨extreme, unnamed, missing, filled⟩
      · refine .inr ⟨fun cause obstacle => ?_, attr, by rw [asked, filter, filled]; rfl⟩
        cases obstacle with
        | column named missing =>
          exact named.elim (hasAsked _ · missing) (hasFilter _ · missing)
        | date extreme unnamed missing => exact dated ⟨extreme, unnamed, missing⟩
      · exact .inl ⟨_, .date extreme unnamed missing, by rw [asked, filter, filled]; rfl⟩
    · exact .inl ⟨_, .column (.inr isFilter) missing, by rw [asked, filter]; rfl⟩
  · exact .inl ⟨_, .column (.inl isAsked) missing, by rw [asked]; rfl⟩

/-- The name of an entity leads to the entity and its view. -/
theorem entity?_name {doc : Document} {p : Planner} (compiled : Compiled doc p.graph)
    (mem : e ∈ p.graph.entities) (found : p.views.find? (·.entity == e.index) = some v) :
    p.entity? e.name = some (e, v) := by
  have keys : (p.graph.entities.map (Name.key ·.name)).Nodup := by
    have apart := compiled.wellFormed.apart.keys
    rwa [Draft.names, List.map_map] at apart
  have index : p.graph.indexOf? e.name = some e.index := by
    rw [Graph.indexOf?, find?_of_nodup_map keys mem rfl, Option.map_some]
  have atPlace : p.graph.entities[e.index]? = some e :=
    compiled.wellFormed.placed.entityIndex.getElem? mem
  simp [entity?, index, atPlace, found]

end Planner

namespace Keyword

open Text

/-- A question that keywords resolve leads to a coherent intent about an entity of the graph.  The
intent is grounded in the view of the entity, unless one of the attributes that it names has no
column there, or it asks for an extreme value without naming an attribute and there is no date. -/
theorem coherent_of_resolve {text : String} {g : Graph} (compiles : compile text = .ok g)
    {question : String} {i : Intent} (resolved : resolve g question = .ok i) :
    ∃ e ∈ g.entities, Coherent g (squeeze question.toList) e i ∧
      ∃ views, View.all g (Schema.ofGraph g) = .ok views ∧ ∃ v ∈ views, v.entity = e.index ∧
        ∀ p : Planner, p.graph = g → p.views = views → p.Decides e v i := by
  obtain ⟨doc, -, compiled⟩ := compiled_of_compile compiles
  obtain ⟨views, laid, housed⟩ := Graph.housed_of_compile compiles
  unfold resolve at resolved
  extract_lets words at resolved
  split at resolved
  · contradiction
  · next m longest =>
    split at resolved
    · next made =>
      obtain rfl := Except.ok.inj resolved
      obtain ⟨mem, isLongest⟩ :=
        isLongest_of_longest? compiled.wellFormed.placed.entityIndex longest
      have coherent := coherent_of_intentOf isLongest made
      obtain ⟨t, -, v, vMem, table, found, -, owner, -⟩ := housed.found m.entity mem
      refine ⟨m.entity, mem, coherent, views, laid, v, vMem, owner, ?_⟩
      rintro p rfl rfl
      refine Planner.decides_of_entity? ?_
      rw [coherent.entity]
      exact Planner.entity?_name compiled mem found
    · contradiction

/-- The question mentions two entities, and is about the one of the longer form. -/
theorem coherent_where_filtered :
    let i : Intent := { Intent.plain .filter "Purchase Order" with
      filterAttr := some "Status", filterValue := some "open" }
    ∃ g, compile "**Order**\n**Purchase Order**\n- Purchase Order has a Status.\n" = .ok g ∧
      resolve g "Which purchase orders have status open?" = .ok i ∧
      ∃ e ∈ g.entities,
        Coherent g (squeeze "Which purchase orders have status open?".toList) e i ∧
          ∃ views, View.all g (Schema.ofGraph g) = .ok views ∧ ∃ v ∈ views, v.entity = e.index ∧
            ∀ p : Planner, p.graph = g → p.views = views → p.Decides e v i := by
  have passes : compilesTo "**Order**\n**Purchase Order**\n- Purchase Order has a Status.\n"
      (fun g => match resolve g "Which purchase orders have status open?" with
      | .ok found => decide (found = { Intent.plain .filter "Purchase Order" with
          filterAttr := some "Status", filterValue := some "open" })
      | .error _ => false) = true := by
    decide +kernel
  obtain ⟨g, compiles, shown⟩ := of_compilesTo passes
  cases resolved : resolve g "Which purchase orders have status open?" with
  | error e => simp [resolved] at shown
  | ok found =>
    simp only [resolved, decide_eq_true_eq] at shown
    subst shown
    exact ⟨g, compiles, resolved, coherent_of_resolve compiles resolved⟩

end Keyword

end FactModel
