import FactModel.Document.Basic
import FactModel.Proofs.Graph.Declaring
import Mathlib.Data.List.Forall2

/-!
# Reading lines that are all understood

A text of headers, empty lines and bullets that each state a fact is read without a note.  Its
declarations are its headers and its facts are those of its bullets, in their order.
-/

namespace FactModel

/-- What a fact says, and of which entity. -/
def Fact.content (f : Fact) : String × Assertion :=
  (f.entity, f.assertion)

/-- What a declaration says. -/
def Declaration.content (d : Declaration) : String × String :=
  (d.name, d.description)

/-- A bullet states one and the same wherever it stands. -/
def Bullet.States (known : List String) (body : List Char) (content : String × Assertion) : Prop :=
  ∀ number owner, ∃ f, (Bullet.contextOf number owner known body).classify = .ok (some f) ∧
    f.content = content

/-- What a line that is understood states, if it is a bullet. -/
inductive Line.Tells (known : List String) : Line → Option (String × Assertion) → Prop where
  | header (name description text : String) : Tells known (.header name description text) none
  | blank : Tells known .blank none
  | bullet {body : List Char} {content : String × Assertion}
      (states : Bullet.States known body content) : Tells known (.bullet body) (some content)

/-- The name and the description in the header of an entity. -/
def Line.headerContent? : Line → Option (String × String)
  | .header name description _ => some (name, description)
  | _ => none

/-- The name and the description that an outcome declares. -/
def Outcome.declaredContent? : Nat × Outcome → Option (String × String)
  | (_, .declared name description _) => some (name, description)
  | _ => none

/-- What an outcome states. -/
def Outcome.statedContent? : Nat × Outcome → Option (String × Assertion)
  | (_, .stated fact) => some fact.content
  | _ => none

/-- Nothing is left over of an outcome: no line of a description, and no diagnostic. -/
def Outcome.Plain (outcome : Nat × Outcome) : Prop :=
  Document.descriptionLine? outcome = none ∧ Document.diagnostic? outcome = none

/-- What comes of a line that is understood, below a header or as a header itself. -/
theorem Outcome.exists_of_tells {known : List String} {place : Outcome.Place} {line : Line}
    {content : Option (String × Assertion)} (tells : Line.Tells known line content)
    (owned : place.owner.isSome = true ∨ (Line.headerContent? line).isSome = true) (number : Nat) :
    ∃ outcome, Outcome.ofLine known place number line = .ok outcome ∧
      Outcome.statedContent? (number, outcome) = content ∧
      Outcome.declaredContent? (number, outcome) = Line.headerContent? line ∧
      Outcome.Plain (number, outcome) ∧ (place.after line).owner.isSome = true := by
  cases tells with
  | header name description text => exact ⟨_, rfl, rfl, rfl, ⟨rfl, rfl⟩, rfl⟩
  | blank => exact ⟨_, rfl, rfl, rfl, ⟨rfl, rfl⟩, owned.resolve_right (by simp [Line.headerContent?])⟩
  | @bullet body content states =>
    have hasOwner := owned.resolve_right (by simp [Line.headerContent?])
    obtain ⟨owner, isOwner⟩ := Option.isSome_iff_exists.mp hasOwner
    obtain ⟨f, classified, rfl⟩ := states number owner
    refine ⟨.stated f, ?_, rfl, rfl, ⟨rfl, rfl⟩, hasOwner⟩
    simp only [Outcome.ofLine, isOwner, Outcome.ofBullet, classified]
    rfl

/-- Lines that are understood are traced to their end.  A bullet has an owner because a header
stands first. -/
theorem Trace.exists_outcomes {known : List String} {place : Outcome.Place} {ls : List (Nat × Line)}
    {contents : List (Option (String × Assertion))}
    (tells : List.Forall₂ (fun l content => Line.Tells known l.2 content) ls contents)
    (owned : place.owner.isSome = true ∨ ∀ l ∈ ls.head?, (Line.headerContent? l.2).isSome = true) :
    ∃ outcomes, Trace.ofLines known place ls = { outcomes, failure := none } ∧
      outcomes.filterMap Outcome.statedContent? = contents.filterMap id ∧
      outcomes.filterMap Outcome.declaredContent? =
        ls.filterMap (fun l => Line.headerContent? l.2) ∧
      ∀ outcome ∈ outcomes, Outcome.Plain outcome := by
  induction tells generalizing place with
  | nil => exact ⟨[], rfl, rfl, rfl, by simp⟩
  | @cons l content ls contents told _ ih =>
    obtain ⟨number, line⟩ := l
    have ownedHere := owned.imp_right fun first => first (number, line) rfl
    obtain ⟨outcome, read, states, declares, plain, ownedLater⟩ :=
      Outcome.exists_of_tells told ownedHere number
    obtain ⟨outcomes, traced, stated, declared, allPlain⟩ := ih (.inl ownedLater)
    refine ⟨(number, outcome) :: outcomes, ?_, ?_, ?_, ?_⟩
    · rw [Trace.ofLines]
      simp only [read, traced]
    · rw [List.filterMap_cons, states, stated, List.filterMap_cons]
      rfl
    · rw [List.filterMap_cons, declares, declared, List.filterMap_cons]
    · intro other mem
      rcases List.mem_cons.mp mem with rfl | later
      · exact plain
      · exact allPlain other later

namespace Document

theorem joinDescription_singleton (description : String) :
    joinDescription [description] = description := by
  by_cases empty : description = ""
  · simp [joinDescription, empty]
  · simp [joinDescription, empty]

theorem contents_statementsOf {outcomes : List (Nat × Outcome)}
    (plain : ∀ outcome ∈ outcomes, Outcome.Plain outcome) :
    (Draft.declarations (statementsOf outcomes)).map (·.content) =
        outcomes.filterMap Outcome.declaredContent? ∧
      (Draft.facts (statementsOf outcomes)).map (·.content) =
        outcomes.filterMap Outcome.statedContent? := by
  induction outcomes with
  | nil => exact ⟨rfl, rfl⟩
  | cons head rest ih =>
    obtain ⟨number, outcome⟩ := head
    have restPlain : ∀ other ∈ rest, Outcome.Plain other := fun other mem =>
      plain other (List.mem_cons_of_mem _ mem)
    obtain ⟨declared, stated⟩ := ih restPlain
    rw [Draft.declarations] at declared
    rw [Draft.facts] at stated
    rw [List.filterMap_cons, List.filterMap_cons, ← declared, ← stated]
    cases outcome with
    | declared name description text =>
      have noMore : (rest.takeWhile (!isDeclared ·)).filterMap descriptionLine? = [] := by
        rw [List.filterMap_eq_nil_iff]
        intro other mem
        exact (restPlain other ((List.takeWhile_sublist _).subset mem)).1
      simp only [statementsOf, noMore, joinDescription_singleton]
      exact ⟨rfl, rfl⟩
    | _ => exact ⟨rfl, rfl⟩

end Document

/-! ## Whole texts -/

theorem Line.map_snd_ofText (text : String) :
    (Line.ofText text).map (·.2) = Line.ofRaws false (Text.lines text.toList) := by
  simp [Line.ofText, Function.comp_def]

/-- The lines of a text are understood: each has what it states, and the first is a header. -/
structure Line.Understood (known : List String) (ls : List Line)
    (contents : List (Option (String × Assertion))) : Prop where
  tells : List.Forall₂ (Line.Tells known) ls contents
  first : ∀ l ∈ ls.head?, (Line.headerContent? l).isSome = true

theorem Document.parse_of_understood {text : String}
    {contents : List (Option (String × Assertion))}
    (understood : Line.Understood (Line.declaredNames (Line.ofText text))
      (Line.ofRaws false (Text.lines text.toList)) contents) :
    ∃ doc, Document.parse text = .ok doc ∧ doc.diagnostics = [] ∧
      (Draft.declarations doc.statements).map (·.content) =
        (Line.ofRaws false (Text.lines text.toList)).filterMap Line.headerContent? ∧
      (Draft.facts doc.statements).map (·.content) = contents.filterMap id := by
  obtain ⟨tells, first⟩ := understood
  rw [← Line.map_snd_ofText, List.forall₂_map_left_iff] at tells
  have headed : Outcome.Place.top.owner.isSome = true ∨
      ∀ l ∈ (Line.ofText text).head?, (Line.headerContent? l.2).isSome = true := by
    refine .inr fun l isFirst => first l.2 ?_
    rw [← Line.map_snd_ofText, List.head?_map, isFirst]
    rfl
  obtain ⟨outcomes, traced, stated, declared, plain⟩ := Trace.exists_outcomes tells headed
  obtain ⟨declarations, facts⟩ := Document.contents_statementsOf plain
  refine ⟨Document.ofOutcomes (Line.declaredNames (Line.ofText text)) outcomes, ?_, ?_, ?_, ?_⟩
  · simp only [Document.parse, Trace.ofText, Line.scannedNames_eq, traced]
  · rw [Document.ofOutcomes, List.filterMap_eq_nil_iff]
    exact fun outcome mem => (plain outcome mem).2
  · rw [← Line.map_snd_ofText, List.filterMap_map]
    exact declarations.trans declared
  · exact facts.trans stated

theorem Line.foldl_enter_of_nodup {names entered : List String}
    (nodup : ((entered ++ names).map Name.key).Nodup) :
    names.foldl Line.enter entered = entered ++ names := by
  induction names generalizing entered with
  | nil => simp
  | cons name names ih =>
    have fresh : entered.any (Name.key · == Name.key name) = false := by
      rw [List.any_eq_false]
      intro other mem same
      rw [List.map_append, List.nodup_append] at nodup
      exact nodup.2.2 _ (List.mem_map_of_mem mem) _ (List.mem_map_of_mem List.mem_cons_self)
        (eq_of_beq same)
    rw [List.append_cons] at nodup ⊢
    rw [List.foldl_cons, Line.enter, fresh]
    exact ih nodup

/-- Where headers spell different names, all of them are declared. -/
theorem Line.declaredNames_eq {text : String} {names : List String}
    (headers : (Line.ofRaws false (Text.lines text.toList)).filterMap
      (fun l => (Line.headerContent? l).map (·.1)) = names)
    (nodup : (names.map Name.key).Nodup) : Line.declaredNames (Line.ofText text) = names := by
  have same : (Line.ofText text).filterMap Line.headerName? = names := by
    rw [← headers, ← Line.map_snd_ofText, List.filterMap_map]
    congr
    funext ⟨number, line⟩
    cases line <;> rfl
  rw [Line.declaredNames, same]
  exact Line.foldl_enter_of_nodup (show (([] ++ names).map Name.key).Nodup from nodup)

end FactModel
