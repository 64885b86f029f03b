import FactModel.Proofs.Description.Legible
import FactModel.Proofs.Document.Describing

/-!
# Reading a description back

Each line of the description of a legible graph is understood: a header declares its entity, a
bullet states the fact of its item, and the lines between the blocks are empty.  What is read back
are therefore the declared entities and, in order, the facts of all items.
-/

namespace FactModel

open Bullet Text

namespace Description

/-! ## Lines and blocks -/

/-- What a line is read as: what it states and what it declares. -/
structure Shows (known : List String) (line : String)
    (content : Option (String × Assertion) × Option (String × String)) : Prop where
  unbroken : ∀ c ∈ line.toList, isLineBreak c = false
  noFence : Line.isFenceMark line.toList = false
  tells : Line.Tells known (Line.ofRaw line.toList) content.1
  declares : Line.headerContent? (Line.ofRaw line.toList) = content.2

theorem shows_empty (known : List String) : Shows known "" (none, none) where
  unbroken := by simp
  noFence := by decide
  tells := .blank
  declares := rfl

theorem BulletTells.shows {known : List String} {line : String} {content : String × Assertion}
    (tells : BulletTells known line content) : Shows known line (some content, none) := by
  obtain ⟨body, form, tells⟩ := tells
  have read := Line.ofRaw_bullet tells.trimmed
  constructor
  · intro c mem
    rw [form, List.mem_append] at mem
    rcases mem with inMark | inBody
    · have marks : ∀ c ∈ "- ".toList, isLineBreak c = false := by decide
      exact marks c inMark
    · exact tells.unbroken c inBody
  · rw [form]
    exact Line.isFenceMark_of_trim (Line.trimmed_bullet tells.trimmed).trim_eq (by decide)
  · rw [form, read]
    exact .bullet tells.states
  · rw [form, read]
    rfl

theorem unbroken_headerTail {description : String} (describable : Describable description) :
    ∀ c ∈ Line.headerTail description.toList, isLineBreak c = false := by
  intro c mem
  rw [Line.headerTail] at mem
  split at mem
  · simp at mem
  · rcases List.mem_append.mp mem with inMark | within
    · have marks : ∀ c ∈ ": ".toList, isLineBreak c = false := by decide
      exact marks c inMark
    · exact describable.unbroken c within

theorem shows_header (known : List String) {e : Entity} (plain : Plain e.name)
    (describable : Describable e.description) :
    Shows known (header e) (none, some (e.name, e.description)) := by
  have trimmed : e.description.toList = [] ∨ Line.Trimmed e.description.toList := by
    by_cases empty : e.description.toList = []
    · exact .inl empty
    · exact .inr ⟨empty, describable.begins, describable.ends⟩
  have form : (header e).toList = Line.headerChars e.name.toList e.description.toList := by
    rw [header, Line.headerChars, Line.headerTail]
    by_cases empty : e.description = ""
    · simp [toString, empty]
    · simp [toString, empty]
  have inName : ∀ c ∈ e.name.toList, c ≠ '*' ∧ c ≠ ':' := by
    intro c mem
    have notMark := plain.unmarked c mem
    simp only [markChars, List.mem_cons, not_or] at notMark
    exact ⟨notMark.1, notMark.2.1⟩
  have read := Line.ofRaw_header plain.toList_ne_nil inName trimmed
  rw [String.ofList_toList, String.ofList_toList, plain.display_eq] at read
  constructor
  · intro c mem
    rw [form, Line.headerChars, List.mem_append, List.mem_append, List.mem_append] at mem
    have stars : ∀ c ∈ "**".toList, isLineBreak c = false := by decide
    rcases mem with opening | inName | closing | inTail
    · exact stars c opening
    · exact plain.tidy.not_isLineBreak inName
    · exact stars c closing
    · exact unbroken_headerTail describable c inTail
  · rw [form]
    exact Line.isFenceMark_of_trim (Line.trimmed_header trimmed).trim_eq (by decide)
  · rw [form, read]
    exact .header _ _ _
  · rw [form, read]
    rfl

/-- The empty lines between blocks tell nothing. -/
theorem exists_shows_spaced {known : List String} {blocks : List (List String)}
    {contents : List (List (Option (String × Assertion) × Option (String × String)))}
    (shows : List.Forall₂ (List.Forall₂ (Shows known)) blocks contents) :
    ∃ entries, List.Forall₂ (Shows known) (Artifact.spaced blocks) entries ∧
      entries.filterMap (·.1) = contents.flatten.filterMap (·.1) ∧
      entries.filterMap (·.2) = contents.flatten.filterMap (·.2) ∧
      ((∀ content ∈ contents, content ≠ []) → entries.head? = contents.flatten.head?) := by
  induction shows with
  | nil => exact ⟨[], .nil, rfl, rfl, fun _ => rfl⟩
  | @cons block content blocks contents here later ih =>
    cases later with
    | nil =>
      refine ⟨content, ?_, by simp, by simp, by simp⟩
      simpa [Artifact.spaced, List.intercalate] using here
    | cons next rest =>
      obtain ⟨entries, shown, stated, declared, -⟩ := ih
      refine ⟨content ++ (none, none) :: entries, ?_, ?_, ?_, ?_⟩
      · rw [Artifact.spaced_cons (by simp)]
        exact List.rel_append here (.cons (shows_empty known) shown)
      · rw [List.flatten_cons, List.filterMap_append, List.filterMap_append, ← stated]
        rfl
      · rw [List.flatten_cons, List.filterMap_append, List.filterMap_append, ← declared]
        rfl
      · intro ne
        have contentNe := ne content List.mem_cons_self
        rw [List.flatten_cons, List.head?_append_of_ne_nil _ contentNe,
          List.head?_append_of_ne_nil _ contentNe]

theorem extendLast_concat (more : List String) (blocks : List (List String)) (last : List String) :
    extendLast more (blocks ++ [last]) = blocks ++ [last ++ more] := by
  induction blocks with
  | nil => rfl
  | cons block blocks ih =>
    have isCons : ∃ next rest, blocks ++ [last] = next :: rest :=
      List.exists_cons_of_ne_nil (by simp)
    obtain ⟨next, rest, form⟩ := isCons
    rw [List.cons_append, List.cons_append, ← ih, form]
    rfl

/-! ## Legible graphs -/

section Legible

variable {doc : Document} {g : Graph} (compiled : Compiled doc g) (legible : g.Legible)

include compiled legible

/-- The entities of a legible graph are understood by their names. -/
theorem subject_of_mem {e : Entity} (mem : e ∈ g.entities) : Subject g.declaredNames e.name := by
  obtain ⟨plain, direct⟩ := legible.names e mem
  refine ⟨⟨plain, ?_⟩, direct⟩
  intro other isDeclared same
  obtain ⟨d, dMem, rfl⟩ := List.mem_map.mp isDeclared
  have keys : (g.entities.map (Name.key ·.name)).Nodup := by
    have nodup := compiled.wellFormed.apart.keys
    rwa [Draft.names, List.map_map] at nodup
  rw [List.inj_on_of_nodup_map keys (List.mem_filter.mp dMem).1 mem same]

theorem subject_of_lt {i : Nat} (bound : i < g.entities.length) :
    Subject g.declaredNames (g.entityName i) := by
  have found : g.entityName i = g.entities[i].name := by
    rw [Graph.entityName, List.getElem?_eq_getElem bound]
    rfl
  rw [found]
  exact subject_of_mem compiled legible (List.getElem_mem bound)

/-- The bullet of a legible item states its fact. -/
theorem tells_bullet {item : Item} (within : item.Within g) (itemLegible : item.Legible g) :
    BulletTells g.declaredNames (item.bullet g) (item.fact g) := by
  have closed := compiled.closed
  have bounds : item.entity < g.entities.length ∧ ∀ i ∈ item.named, i < g.entities.length := by
    cases item with
    | attr a => exact ⟨closed.owners a within, by simp [Item.named]⟩
    | relationship r => simpa [Item.named, Item.entity] using closed.ends r within
    | constraint c => exact ⟨(closed.constraints c within).1, by simp [Item.named]⟩
    | subtype rule =>
      obtain ⟨subtype, base, -⟩ := closed.subtypes rule within
      exact ⟨subtype, by simpa [Item.named] using base⟩
  apply tells_of_legible (subject_of_lt compiled legible bounds.1) _ itemLegible
  intro i mem
  exact (subject_of_lt compiled legible (bounds.2 i mem)).toNamed

/-- What is read of the bullets of an entity. -/
theorem shows_bullets {e : Entity} (mem : e ∈ g.entities) :
    List.Forall₂ (Shows g.declaredNames) (bullets g e)
      ((items g e).map fun item => (some (item.fact g), none)) := by
  rw [bullets_eq (.of_compiled compiled) mem, List.forall₂_map_left_iff, List.forall₂_map_right_iff,
    List.forall₂_same]
  intro item itemMem
  apply BulletTells.shows
  apply tells_bullet compiled legible ((mem_items_iff (.of_compiled compiled)).mp itemMem).1
  exact legible.items item (List.mem_flatMap.mpr ⟨e, mem, itemMem⟩)

theorem shows_block {e : Entity} (mem : e ∈ g.entities) (describable : Describable e.description) :
    List.Forall₂ (Shows g.declaredNames) (block g e)
      ((none, some (e.name, e.description)) ::
        (items g e).map fun item => (some (item.fact g), none)) :=
  .cons (shows_header _ (legible.names e mem).1 describable) (shows_bullets compiled legible mem)

end Legible

/-- Lines that are understood one by one are understood as a text. -/
theorem parse_of_shows {text : String} {known : List String} {ls : List String}
    {contents : List (Option (String × Assertion) × Option (String × String))}
    (isText : lines text.toList = ls.map String.toList)
    (shows : List.Forall₂ (Shows known) ls contents)
    (names : (contents.filterMap (·.2)).map (·.1) = known) (nodup : (known.map Name.key).Nodup)
    (first : ∀ content ∈ contents.head?, content.2.isSome = true) :
    ∃ doc, Document.parse text = .ok doc ∧ doc.diagnostics = [] ∧
      (Draft.declarations doc.statements).map (·.content) = contents.filterMap (·.2) ∧
      (Draft.facts doc.statements).map (·.content) = contents.filterMap (·.1) := by
  have noFence : ∀ raw ∈ ls.map String.toList, Line.isFenceMark raw = false := by
    intro raw mem
    obtain ⟨line, lineMem, rfl⟩ := List.mem_map.mp mem
    clear * - shows lineMem
    induction shows with
    | nil => contradiction
    | cons here _ ih =>
      rcases List.mem_cons.mp lineMem with rfl | later
      · exact here.noFence
      · exact ih later
  have read : Line.ofRaws false (lines text.toList) = ls.map fun line => Line.ofRaw line.toList := by
    rw [isText, Line.ofRaws_eq_map noFence, List.map_map]
    rfl
  have headers : (Line.ofRaws false (lines text.toList)).filterMap Line.headerContent? =
      contents.filterMap (·.2) := by
    rw [read]
    clear * - shows
    induction shows with
    | nil => rfl
    | cons here _ ih => rw [List.map_cons, List.filterMap_cons, List.filterMap_cons, here.declares, ih]
  have declared : Line.declaredNames (Line.ofText text) = known := by
    apply Line.declaredNames_eq _ nodup
    rw [← names, ← headers, List.map_filterMap]
  have tells : List.Forall₂ (Line.Tells known) (Line.ofRaws false (lines text.toList))
      (contents.map (·.1)) := by
    rw [read, List.forall₂_map_left_iff, List.forall₂_map_right_iff]
    exact shows.imp fun _ _ here => here.tells
  have understood : Line.Understood (Line.declaredNames (Line.ofText text))
      (Line.ofRaws false (lines text.toList)) (contents.map (·.1)) := by
    rw [declared]
    refine ⟨tells, ?_⟩
    rw [read]
    clear * - shows first
    intro l isFirst
    cases shows with
    | nil => contradiction
    | cons here _ =>
      cases isFirst
      rw [here.declares]
      exact first _ rfl
  obtain ⟨doc, parsed, clean, declarations, facts⟩ := Document.parse_of_understood understood
  refine ⟨doc, parsed, clean, declarations.trans headers, facts.trans ?_⟩
  rw [List.filterMap_map]
  rfl

theorem unbroken_of_shows {known : List String} {blocks : List (List String)}
    {contents : List (List (Option (String × Assertion) × Option (String × String)))}
    (shows : List.Forall₂ (List.Forall₂ (Shows known)) blocks contents) :
    ∀ block ∈ blocks, ∀ part ∈ block, ∀ c ∈ part.toList, isLineBreak c = false := by
  intro block mem part partMem
  induction shows with
  | nil => contradiction
  | cons here _ ih =>
    rcases List.mem_cons.mp mem with rfl | later
    · clear * - here partMem
      induction here with
      | nil => contradiction
      | cons first _ ih =>
        rcases List.mem_cons.mp partMem with rfl | later
        · exact first.unbroken
        · exact ih later
    · exact ih later

/-- Blocks that are understood line by line are understood as a text. -/
theorem parse_of_blocks {known : List String} {blocks : List (List String)}
    {contents : List (List (Option (String × Assertion) × Option (String × String)))}
    (blocksNe : ∀ block ∈ blocks, block ≠ []) (contentsNe : ∀ content ∈ contents, content ≠ [])
    (shows : List.Forall₂ (List.Forall₂ (Shows known)) blocks contents)
    (names : (contents.flatten.filterMap (·.2)).map (·.1) = known)
    (nodup : (known.map Name.key).Nodup)
    (first : ∀ content ∈ contents.flatten.head?, content.2.isSome = true) :
    ∃ doc, Document.parse (Artifact.blocksIfAny (blocks.map Artifact.unlines)) = .ok doc ∧
      doc.diagnostics = [] ∧
      (Draft.declarations doc.statements).map (·.content) = contents.flatten.filterMap (·.2) ∧
      (Draft.facts doc.statements).map (·.content) = contents.flatten.filterMap (·.1) := by
  obtain ⟨entries, shown, stated, declared, sameHead⟩ := exists_shows_spaced shows
  have isText := Artifact.lines_blocksIfAny blocksNe (unbroken_of_shows shows)
  rw [← stated, ← declared]
  rw [← declared] at names
  rw [← sameHead contentsNe] at first
  exact parse_of_shows isText shown names nodup first

/-- What the bullets of an entity are read as. -/
def bulletContents (g : Graph) (e : Entity) :
    List (Option (String × Assertion) × Option (String × String)) :=
  (items g e).map fun item => (some (item.fact g), none)

/-- What the header of an entity and its bullets are read as. -/
def blockContents (g : Graph) (e : Entity) :
    List (Option (String × Assertion) × Option (String × String)) :=
  (none, some (e.name, e.description)) :: bulletContents g e

@[simp]
theorem filterMap_fst_bulletContents (g : Graph) (e : Entity) :
    (bulletContents g e).filterMap (·.1) = (items g e).map (·.fact g) := by
  simp [bulletContents, List.filterMap_map]

@[simp]
theorem filterMap_snd_bulletContents (g : Graph) (e : Entity) :
    (bulletContents g e).filterMap (·.2) = [] := by
  simp [bulletContents, List.filterMap_map]

@[simp]
theorem filterMap_fst_blockContents (g : Graph) (e : Entity) :
    (blockContents g e).filterMap (·.1) = (items g e).map (·.fact g) := by
  simp [blockContents]

@[simp]
theorem filterMap_snd_blockContents (g : Graph) (e : Entity) :
    (blockContents g e).filterMap (·.2) = [(e.name, e.description)] := by
  simp [blockContents]

/-! ## Descriptions -/

/-- The blocks of a description, the bullets of the undeclared entities behind those of the last
declared one. -/
def blocksWith (g : Graph) (front : List Entity) (last : Entity) (stubs : List Entity) :
    List (List String) :=
  front.map (block g) ++ [block g last ++ stubs.flatMap (bullets g)]

/-- What the blocks of a description are read as. -/
def contentsWith (g : Graph) (front : List Entity) (last : Entity) (stubs : List Entity) :
    List (List (Option (String × Assertion) × Option (String × String))) :=
  front.map (blockContents g) ++ [blockContents g last ++ stubs.flatMap (bulletContents g)]

section Contents

variable (g : Graph) (front : List Entity) (last : Entity) (stubs : List Entity)

theorem ne_nil_of_mem_blocksWith {lines : List String} (mem : lines ∈ blocksWith g front last stubs) :
    lines ≠ [] := by
  rcases List.mem_append.mp mem with inFront | isLast
  · obtain ⟨e, -, rfl⟩ := List.mem_map.mp inFront
    exact List.cons_ne_nil _ _
  · rw [List.mem_singleton.mp isLast]
    exact List.cons_ne_nil _ _

theorem ne_nil_of_mem_contentsWith
    {content : List (Option (String × Assertion) × Option (String × String))}
    (mem : content ∈ contentsWith g front last stubs) : content ≠ [] := by
  rcases List.mem_append.mp mem with inFront | isLast
  · obtain ⟨e, -, rfl⟩ := List.mem_map.mp inFront
    exact List.cons_ne_nil _ _
  · rw [List.mem_singleton.mp isLast]
    exact List.cons_ne_nil _ _

theorem flatten_contentsWith : (contentsWith g front last stubs).flatten =
    (front ++ [last]).flatMap (blockContents g) ++ stubs.flatMap (bulletContents g) := by
  simp [contentsWith, List.flatMap]

theorem filterMap_snd_contentsWith : (contentsWith g front last stubs).flatten.filterMap (·.2) =
    (front ++ [last]).map fun e => (e.name, e.description) := by
  rw [flatten_contentsWith]
  simp [List.filterMap_flatMap, List.map_eq_flatMap]

theorem filterMap_fst_contentsWith : (contentsWith g front last stubs).flatten.filterMap (·.1) =
    ((front ++ [last] ++ stubs).flatMap (items g)).map (·.fact g) := by
  rw [flatten_contentsWith]
  simp [List.filterMap_flatMap, List.map_flatMap]

/-- A description begins with a header. -/
theorem isSome_head_contentsWith :
    ∀ content ∈ (contentsWith g front last stubs).flatten.head?, content.2.isSome = true := by
  rw [flatten_contentsWith]
  cases front <;> simp [blockContents]

end Contents

section Legible

variable {doc : Document} {g : Graph} (compiled : Compiled doc g) (legible : g.Legible)

include compiled

/-- The declared entities stand before the others. -/
theorem declared_append_undeclared :
    g.entities.filter (·.declared) ++ g.entities.filter (!·.declared) = g.entities := by
  obtain ⟨heads, stubs, split, declared, undeclared, -, -⟩ := compiled.introduced_split
  have noStubs : stubs.filter (·.declared) = [] :=
    List.filter_eq_nil_iff.mpr (by simpa using undeclared)
  have noHeads : heads.filter (!·.declared) = [] :=
    List.filter_eq_nil_iff.mpr (by simpa using declared)
  have allStubs : stubs.filter (!·.declared) = stubs :=
    List.filter_eq_self.mpr (by simpa using undeclared)
  rw [split, List.filter_append, List.filter_append, List.filter_eq_self.mpr declared, noStubs,
    noHeads, allStubs, List.append_nil, List.nil_append]

theorem declaredKeys_nodup : (g.declaredNames.map Name.key).Nodup := by
  have keys := compiled.wellFormed.apart.keys
  rw [Draft.names, show g.draft.entities = g.entities from rfl,
    ← declared_append_undeclared compiled, List.map_append, List.map_append] at keys
  exact (List.nodup_append.mp keys).1

include legible

theorem shows_flatMap_bullets {es : List Entity} (inGraph : ∀ e ∈ es, e ∈ g.entities) :
    List.Forall₂ (Shows g.declaredNames) (es.flatMap (bullets g))
      (es.flatMap (bulletContents g)) := by
  induction es with
  | nil => exact .nil
  | cons e es ih =>
    exact List.rel_append (shows_bullets compiled legible (inGraph e List.mem_cons_self))
      (ih fun other mem => inGraph other (List.mem_cons_of_mem _ mem))

theorem shows_blocksWith {front : List Entity} {last : Entity} {stubs : List Entity}
    (heads : ∀ e ∈ front ++ [last], e ∈ g.entities ∧ Describable e.description)
    (inGraph : ∀ e ∈ stubs, e ∈ g.entities) :
    List.Forall₂ (List.Forall₂ (Shows g.declaredNames)) (blocksWith g front last stubs)
      (contentsWith g front last stubs) := by
  have frontShows : List.Forall₂ (List.Forall₂ (Shows g.declaredNames)) (front.map (block g))
      (front.map (blockContents g)) := by
    rw [List.forall₂_map_left_iff, List.forall₂_map_right_iff, List.forall₂_same]
    intro e mem
    obtain ⟨eMem, described⟩ := heads e (List.mem_append_left _ mem)
    exact shows_block compiled legible eMem described
  have lastShows : List.Forall₂ (Shows g.declaredNames)
      (block g last ++ stubs.flatMap (bullets g))
      (blockContents g last ++ stubs.flatMap (bulletContents g)) := by
    obtain ⟨lastMem, described⟩ := heads last (by simp)
    exact List.rel_append (shows_block compiled legible lastMem described)
      (shows_flatMap_bullets compiled legible inGraph)
  exact List.rel_append frontShows (.cons lastShows .nil)

/-- What is read back of the description of a legible graph: its declared entities, and the facts
of all that it tells. -/
theorem parse_describe (headed : g.declaredNames = [] → g.entities = [])
    (described : ∀ e ∈ g.entities, Describable e.description) :
    ∃ doc, Document.parse g.describe = .ok doc ∧ doc.diagnostics = [] ∧
      (Draft.declarations doc.statements).map (·.content) =
        (g.entities.filter (·.declared)).map (fun e => (e.name, e.description)) ∧
      (Draft.facts doc.statements).map (·.content) = g.told.map (·.fact g) := by
  have split := declared_append_undeclared compiled
  have nodup := declaredKeys_nodup compiled
  have isHead : ∀ e ∈ g.entities.filter (·.declared), e ∈ g.entities ∧ Describable e.description := by
    intro e mem
    have inGraph := List.mem_of_mem_filter mem
    exact ⟨inGraph, described e inGraph⟩
  have isStub : ∀ e ∈ g.entities.filter (!·.declared), e ∈ g.entities :=
    fun e mem => List.mem_of_mem_filter mem
  have isKnown : g.declaredNames = (g.entities.filter (·.declared)).map (·.name) := rfl
  rw [Graph.describe, Graph.told]
  generalize g.entities.filter (·.declared) = heads at split isHead isKnown ⊢
  generalize g.entities.filter (!·.declared) = stubs at split isStub ⊢
  rcases List.eq_nil_or_concat heads with rfl | ⟨front, last, rfl⟩
  · -- Without a declared entity there is none at all.
    have empty : g.entities = [] := headed isKnown
    obtain ⟨doc, parsed, clean, declarations, facts⟩ :=
      parse_of_blocks (by simp) (by simp)
        (List.Forall₂.nil : List.Forall₂ (List.Forall₂ (Shows g.declaredNames)) [] [])
        isKnown.symm nodup (by simp)
    refine ⟨doc, parsed, clean, declarations, ?_⟩
    rw [facts, empty]
    rfl
  · rw [List.concat_eq_append] at *
    obtain ⟨doc, parsed, clean, declarations, facts⟩ :=
      parse_of_blocks (fun _ => ne_nil_of_mem_blocksWith g front last stubs)
        (fun _ => ne_nil_of_mem_contentsWith g front last stubs)
        (shows_blocksWith compiled legible isHead isStub)
        (by rw [filterMap_snd_contentsWith, isKnown, List.map_map]; rfl) nodup
        (isSome_head_contentsWith g front last stubs)
    refine ⟨doc, ?_, clean, ?_, ?_⟩
    · rw [List.map_append, List.map_singleton, extendLast_concat]
      exact parsed
    · rw [declarations, filterMap_snd_contentsWith]
    · rw [facts, filterMap_fst_contentsWith, split]

end Legible

end Description

end FactModel
