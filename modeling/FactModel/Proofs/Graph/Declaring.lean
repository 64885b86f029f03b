import FactModel.Proofs.Document.Outcomes
import FactModel.Proofs.Graph.Drafting

/-!
# Declaring entities

The declarations of a document are entered before its facts.  A declaration of a name that is known
already changes nothing but a description, so that the declared entities are the headers of the
text in their order, later spellings of a name left out.
-/

namespace FactModel

/-! ## Headers of a text -/

/-- The name that an outcome declares. -/
def Outcome.declaredName? : Nat × Outcome → Option String
  | (_, .declared name _ _) => some name
  | _ => none

/-- A line that is read declares the name in its header, and nothing when it is no header. -/
theorem Outcome.declaredName?_of_ofLine {known : List String} {place : Outcome.Place}
    {number : Nat} {line : Line} {outcome : Outcome}
    (read : Outcome.ofLine known place number line = .ok outcome) :
    Outcome.declaredName? (number, outcome) = Line.headerName? (number, line) := by
  cases Outcome.comes_of_ofLine read <;> rfl

theorem Trace.filterMap_declaredName? {known : List String} {place : Outcome.Place}
    {ls : List (Nat × Line)} (read : (Trace.ofLines known place ls).failure = none) :
    (Trace.ofLines known place ls).outcomes.filterMap Outcome.declaredName? =
      ls.filterMap Line.headerName? := by
  induction ls generalizing place with
  | nil => rfl
  | cons head rest ih =>
    obtain ⟨number, line⟩ := head
    unfold Trace.ofLines at read ⊢
    cases outcomeEq : Outcome.ofLine known place number line with
    | error failure => simp [outcomeEq] at read
    | ok outcome =>
      simp only [outcomeEq] at read ⊢
      rw [List.filterMap_cons, List.filterMap_cons, Outcome.declaredName?_of_ofLine outcomeEq,
        ih read]

theorem Document.names_declarations_statementsOf (outcomes : List (Nat × Outcome)) :
    (Draft.declarations (Document.statementsOf outcomes)).map (·.name) =
      outcomes.filterMap Outcome.declaredName? := by
  induction outcomes with
  | nil => rfl
  | cons head rest ih =>
    obtain ⟨number, outcome⟩ := head
    cases outcome <;>
      simp [Document.statementsOf, Draft.declarations, Outcome.declaredName?] at ih ⊢ <;> exact ih

/-- The names that a document lists are those of its declarations, each key once. -/
theorem Document.entityNames_of_parse {text : String} {doc : Document}
    (read : Document.parse text = .ok doc) :
    doc.entityNames = ((Draft.declarations doc.statements).map (·.name)).foldl Line.enter [] := by
  simp only [Document.parse] at read
  split at read
  · contradiction
  · next succeeded =>
    cases read
    simp only [Document.ofOutcomes, Document.names_declarations_statementsOf,
      Line.scannedNames_eq, Line.declaredNames]
    rw [Trace.ofText, Trace.filterMap_declaredName? succeeded]

/-! ## Entering declarations -/

namespace Draft

open Arena

/-- All entities have headers, under the given names, and none was reported to have none. -/
def AllDeclared (declared : List String) (d : Draft) : Prop :=
  ∃ heads : List (String × Nat), d.headings = heads.map (fun h => (h.1, true, h.2)) ∧
    heads.map (·.1) = declared ∧ counted d.diagnostics = []

theorem AllDeclared.introduced {declared : List String} {d : Draft}
    (allDeclared : AllDeclared declared d) : Introduced declared d := by
  obtain ⟨heads, order, names, none⟩ := allDeclared
  exact ⟨heads, [], by simp [order], names, by simp [none]⟩

theorem AllDeclared.names_eq {declared : List String} {d : Draft}
    (allDeclared : AllDeclared declared d) : d.names = declared := by
  obtain ⟨heads, order, names, -⟩ := allDeclared
  have shown : d.names = d.headings.map (·.1) := by
    simp [Draft.names, headings]
  rw [shown, order, ← names]
  simp [Function.comp_def]

/-- A declaration adds an entity, or changes a description and leaves a note. -/
theorem declare_cases {d e : Draft} {s : Declaration} (declared : d.declare s = .ok e) :
    (d.entity? s.name = none ∧ e = d.addEntity s.name s.description true s.line) ∨
      ∃ old new, d.entity? s.name = some old ∧ new.index = old.index ∧ new.name = old.name ∧
        new.attributeIds = old.attributeIds ∧ new.declared = old.declared ∧ new.line = old.line ∧
        e = Draft.warn { d with entities := d.entities.set old.index new } s.line
          (.declaredAgain s.name) := by
  unfold declare at declared
  split at declared
  · next missing =>
    cases declared
    exact .inl ⟨missing, rfl⟩
  · next old found =>
    split at declared
    · contradiction
    · cases declared
      refine .inr ⟨old, _, found, ?_, ?_, ?_, ?_, ?_, rfl⟩ <;> split <;> rfl

theorem WellFormed.declare {d e : Draft} (wellFormed : d.WellFormed) {s : Declaration}
    (declared : d.declare s = .ok e) : e.WellFormed := by
  rcases declare_cases declared with ⟨missing, rfl⟩ |
    ⟨old, new, found, index, name, ids, -, -, rfl⟩
  · exact wellFormed.addEntity (key_not_mem_of_entity?_eq_none missing) s.description true s.line
  · have atPlace := (of_entity?_eq_some wellFormed.placed found).1
    apply WellFormed.warn
    have names_eq : Draft.names { d with entities := d.entities.set old.index new } = d.names :=
      map_set_of_eq atPlace name
    constructor
    · exact wellFormed.placed.congr (map_set_of_eq atPlace (by rw [index, ids])) rfl
    · rw [names_eq]
      exact wellFormed.apart
    · rw [names_eq]
      exact wellFormed.told
    · simpa using wellFormed.rules
    · simpa using wellFormed.subtypes

theorem AllDeclared.declare {names : List String} {d e : Draft}
    (allDeclared : AllDeclared names d) (wellFormed : d.WellFormed) {s : Declaration}
    (declared : d.declare s = .ok e) : AllDeclared (Line.enter names s.name) e := by
  have known := allDeclared.names_eq
  obtain ⟨heads, order, named, none⟩ := allDeclared
  rcases declare_cases declared with ⟨missing, rfl⟩ |
    ⟨old, new, found, -, name, -, declared', line, rfl⟩
  · have fresh : names.any (Name.key · == Name.key s.name) = false := by
      have notThere := key_not_mem_of_entity?_eq_none missing
      rw [known, List.mem_map] at notThere
      rw [Bool.eq_false_iff, ne_eq, List.any_eq_true]
      rintro ⟨n, mem, same⟩
      exact notThere ⟨n, mem, by simpa using same⟩
    refine ⟨heads ++ [(s.name, s.line)], ?_, ?_, none⟩
    · simp only [headings, List.map_append] at order ⊢
      simp [Draft.addEntity, order]
    · simp [Line.enter, fresh, named]
  · obtain ⟨atPlace, sameKey⟩ := of_entity?_eq_some wellFormed.placed found
    have there : names.any (Name.key · == Name.key s.name) = true := by
      rw [List.any_eq_true]
      refine ⟨old.name, ?_, by simpa using sameKey⟩
      rw [← known]
      exact List.mem_map_of_mem (List.mem_of_getElem? atPlace)
    refine ⟨heads, ?_, ?_, ?_⟩
    · rw [← order]
      exact map_set_of_eq atPlace (by rw [name, declared', line])
    · simp [Line.enter, there, named]
    · simp only [Draft.warn, counted_append, none]
      rfl

/-- Declarations in a row declare their names, later spellings of a name left out. -/
theorem declared_all {names : List String} {d e : Draft} (wellFormed : d.WellFormed)
    (allDeclared : AllDeclared names d) {declarations : List Declaration}
    (entered : declarations.foldlM declare d = .ok e) :
    e.WellFormed ∧ AllDeclared ((declarations.map (·.name)).foldl Line.enter names) e := by
  induction declarations generalizing names d with
  | nil =>
    cases entered
    exact ⟨wellFormed, allDeclared⟩
  | cons s rest ih =>
    rw [List.foldlM_cons] at entered
    obtain ⟨next, first, later⟩ := of_bind_eq_ok entered
    exact ih (wellFormed.declare first) (allDeclared.declare wellFormed first) later

/-- Declarations touch nothing but the entities and the diagnostics. -/
theorem declared_rest {d e : Draft} {declarations : List Declaration}
    (entered : declarations.foldlM Draft.declare d = .ok e) :
    e = { d with entities := e.entities, diagnostics := e.diagnostics } := by
  induction declarations generalizing d with
  | nil =>
    cases entered
    rfl
  | cons s declarations ih =>
    rw [List.foldlM_cons] at entered
    obtain ⟨next, first, later⟩ := of_bind_eq_ok entered
    rw [ih later]
    rcases declare_cases first with ⟨-, rfl⟩ | ⟨old, new, -, -, -, -, -, -, rfl⟩ <;> rfl

theorem counted_diagnostics_of_parse {text : String} {doc : Document}
    (read : Document.parse text = .ok doc) : counted doc.diagnostics = [] := by
  simp only [Document.parse] at read
  split at read
  · contradiction
  · cases read
    simp only [counted, List.filter_eq_nil_iff]
    intro d mem
    obtain ⟨⟨number, outcome⟩, -, reported⟩ := List.mem_filterMap.mp mem
    cases outcome <;> simp [Document.diagnostic?] at reported <;>
      subst reported <;> simp [Finding.isCounted, Finding.code]

end Draft

end FactModel
