import FactModel.Proofs.Bullet.Named
import FactModel.Proofs.Document.Lines
import FactModel.Proofs.Document.Places
import Mathlib.Data.List.Forall2

/-!
# Every line is accounted for

What each line of a text contributes to the document that is read from it is told from the line and
from what stands above and below it: at most one statement, or one entry among what was not
understood, both at the number of the line.  Nothing else is in the document.  Reading stops at a
bullet without an owner exactly when a bullet stands above all headers.
-/

namespace FactModel

open FactModel.Text

/-- What a bullet states is stated at its line. -/
theorem Bullet.line_of_classify {line : Nat} {owner : String} {known : List String}
    {body : List Char} {f : Fact}
    (classified : (Bullet.contextOf line owner known body).classify = .ok (some f)) :
    f.line = line := by
  obtain ⟨-, -, reading, -, resolved⟩ := Context.exists_reading classified
  obtain ⟨subject, assertion, rfl, -⟩ := Context.of_resolve resolved
  rfl

namespace Line

/-! ## Lines as they are written -/

theorem trimmed_of_trim_ne {raw : List Char} (ne : trim raw ≠ []) : Trimmed (trim raw) :=
  ⟨ne, not_isBlank_head?_trim raw, not_isBlank_getLast?_trim raw⟩

/-- Prose is written without blanks around it. -/
theorem trimmed_of_ofRaw {raw text : List Char} (isProse : ofRaw raw = .prose text) :
    Trimmed text := by
  rw [ofRaw] at isProse
  split at isProse
  · contradiction
  · next ne =>
    split at isProse
    · contradiction
    · split at isProse
      · contradiction
      · split at isProse
        · contradiction
        · cases isProse
          exact trimmed_of_trim_ne ne

theorem trimmed_of_mem_ofText {text : String} {n : Nat} {prose : List Char}
    (mem : (n, .prose prose) ∈ ofText text) : Trimmed prose := by
  obtain ⟨i, there⟩ := List.mem_iff_getElem?.mp mem
  rw [getElem?_ofText] at there
  obtain ⟨raw, -, same⟩ := Option.map_eq_some_iff.mp there
  split at same
  · cases same
  · exact trimmed_of_ofRaw (Prod.ext_iff.mp same).2

/-! ## What lines contribute -/

/-- The text of a line of prose. -/
def proseText? : Nat × Line → Option String
  | (_, .prose text) => some (String.ofList text)
  | _ => none

/-- The lines that describe an entity, among those below its header: the prose down to the next
header, bullet or heading. -/
def descriptionBelow (below : List (Nat × Line)) : List String :=
  (below.takeWhile (!·.2.isMark)).filterMap proseText?

theorem descriptionBelow_cons {l : Nat × Line} {below : List (Nat × Line)}
    (unmarked : l.2.isMark = false) :
    descriptionBelow (l :: below) = (proseText? l).toList ++ descriptionBelow below := by
  rw [descriptionBelow, List.takeWhile_cons_of_pos (by simpa using unmarked), List.filterMap_cons]
  cases proseText? l <;> rfl

theorem descriptionBelow_cons_of_isMark {l : Nat × Line} {below : List (Nat × Line)}
    (isMark : l.2.isMark = true) : descriptionBelow (l :: below) = [] := by
  rw [descriptionBelow, List.takeWhile_cons_of_neg (by simpa using isMark)]
  rfl

/-- A line, written as a bullet, would state a fact about an entity that is declared. -/
def WouldState (known : List String) (owner : String) (number : Nat) (text : List Char) : Prop :=
  ∃ body f, ofRaw ("- ".toList ++ text) = .bullet body ∧
    (Bullet.contextOf number owner known body).classify = .ok (some f) ∧
    ∃ name ∈ known, Name.key name = Name.key f.entity

/-- What a line contributes to a document, below and above other lines: the statements and the
entries among what was not understood that stand at its number. -/
inductive Contributes (known : List String) (above : List (Nat × Line)) (number : Nat)
    (below : List (Nat × Line)) : Line → List Statement → List Unparsed → Prop where
  | fenced : Contributes known above number below .fenced [] []
  | blank : Contributes known above number below .blank [] []
  | heading : Contributes known above number below .heading [] []
  | declared (name description text : String) :
    Contributes known above number below (.header name description text)
      [.declaration { line := number, text, name,
                      description := Document.joinDescription
                        (description :: descriptionBelow below) }] []
  | stated {owner : String} {body : List Char} {f : Fact} (owned : ownerAbove above = some owner)
    (classified : (Bullet.contextOf number owner known body).classify = .ok (some f)) :
    Contributes known above number below (.bullet body) [.fact f] []
  | unrecognized {owner : String} {body : List Char} (owned : ownerAbove above = some owner)
    (declined : (Bullet.contextOf number owner known body).classify = .ok none) :
    Contributes known above number below (.bullet body) []
      [{ line := number, text := (Bullet.clean body).text, owner }]
  | described {text : List Char} (describes : describesAbove above = true) :
    Contributes known above number below (.prose text) [] []
  | unbulleted {owner : String} {text : List Char} (beyond : describesAbove above = false)
    (owned : ownerAbove above = some owner) (would : WouldState known owner number text) :
    Contributes known above number below (.prose text) []
      [{ line := number, text := String.ofList text, owner }]
  | ignored {text : List Char} (beyond : describesAbove above = false)
    (plain : ∀ owner, ownerAbove above = some owner → ¬WouldState known owner number text) :
    Contributes known above number below (.prose text) [] []

/-- No line both makes a statement and is not understood. -/
theorem Contributes.eq_nil_or_eq_nil {known : List String} {above below : List (Nat × Line)}
    {n : Nat} {line : Line} {statements : List Statement} {unparsed : List Unparsed}
    (contributes : line.Contributes known above n below statements unparsed) :
    statements = [] ∨ unparsed = [] := by
  cases contributes with
  | declared | stated => exact .inr rfl
  | _ => exact .inl rfl

/-- Prose is looked at as if it were a bullet. -/
theorem readsLikeFact_iff {known : List String} {owner : String} {number : Nat} {text : List Char}
    (trimmed : Trimmed text) :
    Outcome.readsLikeFact known owner number text = .ok true ↔
      WouldState known owner number text := by
  have written := ofRaw_bullet trimmed
  rw [Outcome.readsLikeFact_eq]
  constructor
  · intro like
    cases classified : (Bullet.contextOf number owner known text).classify with
    | error e => simp [classified, Except.map] at like
    | ok fact =>
      cases fact with
      | none => simp [classified, Except.map] at like
      | some f =>
        refine ⟨text, f, written, classified, ?_⟩
        simpa [classified, Except.map] using like
  · rintro ⟨body, f, isBullet, classified, name, mem, same⟩
    cases written.symm.trans isBullet
    have isKnown : known.any (Name.key · == Name.key f.entity) = true :=
      List.any_eq_true.mpr ⟨name, mem, beq_iff_eq.mpr same⟩
    simp [classified, Except.map, isKnown]

/-- Where lines describe an entity, its header is the last mark above. -/
theorem exists_header_of_describesAbove {above : List (Nat × Line)}
    (describes : describesAbove above = true) :
    ∃ front m name description text between,
      above = front ++ (m, .header name description text) :: between ∧
      ∀ l ∈ between, l.2.isMark = false := by
  induction above using List.reverseRecOn with
  | nil => contradiction
  | append_singleton above l ih =>
    obtain ⟨n, line⟩ := l
    have later (unmarked : line.isMark = false) : ∃ front m name description text between,
        above ++ [(n, line)] = front ++ (m, .header name description text) :: between ∧
        ∀ l ∈ between, l.2.isMark = false := by
      have still : describesAbove above = true := by
        simpa [describesAbove, List.filter_append, unmarked] using describes
      obtain ⟨front, m, name, description, text, between, rfl, plain⟩ := ih still
      refine ⟨front, m, name, description, text, between ++ [(n, line)], by simp, ?_⟩
      intro l mem
      rcases List.mem_append.mp mem with old | new
      · exact plain l old
      · rw [List.mem_singleton.mp new]
        exact unmarked
    cases line with
    | header name description text =>
      exact ⟨above, n, name, description, text, [], rfl, by simp⟩
    | bullet body => simp [describesAbove, isMark, isHeader] at describes
    | heading => simp [describesAbove, isMark, isHeader] at describes
    | fenced | blank | prose text => exact later rfl

theorem mem_descriptionBelow {between below : List (Nat × Line)} {n : Nat} {text : List Char}
    (plain : ∀ l ∈ between, l.2.isMark = false) :
    String.ofList text ∈ descriptionBelow (between ++ (n, .prose text) :: below) := by
  have unmarked : ∀ l ∈ between, (!l.2.isMark) = true := by simpa using plain
  rw [descriptionBelow, List.takeWhile_append_of_pos unmarked]
  simp [isMark, proseText?]

end Line

/-! ## Contributions of outcomes -/

namespace Document

section Gathering

variable {α : Type} {contribution : List (Nat × Outcome) → Nat × Outcome → Option α}
  {place : α → Nat}

/-- What outcomes contribute each, in their order, a contribution depending on what is below. -/
def gather (contribution : List (Nat × Outcome) → Nat × Outcome → Option α) :
    List (Nat × Outcome) → List α
  | [] => []
  | o :: below => (contribution below o).toList ++ gather contribution below

/-- Contributions stand at the numbers of their outcomes, in the same order. -/
theorem map_gather_sublist {outcomes : List (Nat × Outcome)}
    (placed : ∀ o ∈ outcomes, ∀ below, ∀ a ∈ contribution below o, place a = o.1) :
    ((gather contribution outcomes).map place).Sublist (outcomes.map (·.1)) := by
  induction outcomes with
  | nil => exact List.Sublist.slnil
  | cons o below ih =>
    have rest := ih fun other mem => placed other (List.mem_cons_of_mem _ mem)
    rw [gather, List.map_append, List.map_cons]
    cases here : contribution below o with
    | none => exact rest.cons _
    | some a =>
      have atPlace := placed o List.mem_cons_self below a here
      simpa [atPlace] using rest

/-- What stands at the number of an outcome is its own contribution. -/
theorem filter_gather {above below : List (Nat × Outcome)} {o : Nat × Outcome}
    (placed : ∀ other ∈ above ++ o :: below, ∀ below, ∀ a ∈ contribution below other,
      place a = other.1)
    (apart : ((above ++ o :: below).map (·.1)).Pairwise (· < ·)) :
    (gather contribution (above ++ o :: below)).filter (place · == o.1) =
      (contribution below o).toList := by
  induction above with
  | nil =>
    rw [List.nil_append] at placed apart ⊢
    have here : (contribution below o).toList.filter (place · == o.1) =
        (contribution below o).toList := by
      rw [List.filter_eq_self]
      intro a mem
      simpa using placed o List.mem_cons_self below a (Option.mem_toList.mp mem)
    have later : (gather contribution below).filter (place · == o.1) = [] := by
      rw [List.filter_eq_nil_iff]
      intro a mem
      have within := (map_gather_sublist fun other mem => placed other
        (List.mem_cons_of_mem _ mem)).subset (List.mem_map_of_mem (f := place) mem)
      have behind := (List.pairwise_cons.mp apart).1 _ within
      simpa using behind.ne'
    rw [gather, List.filter_append, here, later, List.append_nil]
  | cons first above ih =>
    rw [List.cons_append] at placed apart ⊢
    have before : first.1 < o.1 :=
      (List.pairwise_cons.mp apart).1 _ (List.mem_map_of_mem (by simp))
    have here : (contribution (above ++ o :: below) first).toList.filter (place · == o.1) = [] := by
      rw [List.filter_eq_nil_iff]
      intro a mem
      rw [placed first List.mem_cons_self _ a (Option.mem_toList.mp mem)]
      simpa using before.ne
    rw [gather, List.filter_append, here, List.nil_append]
    exact ih (fun other mem => placed other (List.mem_cons_of_mem _ mem))
      (List.pairwise_cons.mp apart).2

end Gathering

/-- The statement that an outcome makes above others. -/
def statement? (below : List (Nat × Outcome)) : Nat × Outcome → Option Statement
  | (line, .declared name description text) =>
    let more := (below.takeWhile (!isDeclared ·)).filterMap descriptionLine?
    some (.declaration { line, text, name, description := joinDescription (description :: more) })
  | (_, .stated fact) => some (.fact fact)
  | _ => none

theorem statementsOf_eq_gather (outcomes : List (Nat × Outcome)) :
    statementsOf outcomes = gather statement? outcomes := by
  induction outcomes with
  | nil => rfl
  | cons o below ih =>
    obtain ⟨line, outcome⟩ := o
    cases outcome <;> simp [statementsOf, gather, statement?, ih]

theorem filterMap_unparsed_eq_gather (outcomes : List (Nat × Outcome)) :
    outcomes.filterMap unparsed? = gather (fun _ => unparsed?) outcomes := by
  induction outcomes with
  | nil => rfl
  | cons o below ih =>
    rw [List.filterMap_cons, gather, ih]
    cases unparsed? o <;> rfl

/-- The fact that an outcome states is stated at the line of the outcome. -/
def StatedInPlace (o : Nat × Outcome) : Prop :=
  ∀ f, o.2 = .stated f → f.line = o.1

theorem line_of_statement? {o : Nat × Outcome} (inPlace : StatedInPlace o)
    (below : List (Nat × Outcome)) : ∀ s ∈ statement? below o, s.line = o.1 := by
  obtain ⟨n, outcome⟩ := o
  intro s made
  cases outcome with
  | declared name description text =>
    cases made
    rfl
  | stated f =>
    cases made
    exact inPlace f rfl
  | skipped | unrecognized owner text | described text | unbulleted owner text | ignored =>
    cases made

theorem line_of_unparsed? (o : Nat × Outcome) : ∀ u ∈ unparsed? o, u.line = o.1 := by
  obtain ⟨n, outcome⟩ := o
  intro u left
  cases outcome with
  | unrecognized owner text | unbulleted owner text =>
    cases left
    rfl
  | skipped | declared name description text | stated f | described text | ignored => cases left

end Document

/-! ## Outcomes of lines -/

namespace Trace

open Outcome (Place)
open Document (StatedInPlace)

variable {known : List String} {place : Place}

theorem statedInPlace {ls : List (Nat × Line)} :
    ∀ o ∈ (ofLines known place ls).outcomes, StatedInPlace o := by
  induction ls generalizing place with
  | nil => simp [ofLines]
  | cons l rest ih =>
    obtain ⟨n, line⟩ := l
    rw [ofLines]
    cases read : Outcome.ofLine known place n line with
    | error failure => simp
    | ok outcome =>
      intro o mem
      rcases List.mem_cons.mp mem with rfl | later
      · intro f stated
        obtain rfl : outcome = .stated f := stated
        cases Outcome.comes_of_ofLine read with
        | stated owned classified => exact Bullet.line_of_classify classified
      · exact ih o later

/-- The outcomes that describe the entity above them are those of the prose down to the next mark;
where no entity is described there are none before the next header. -/
theorem descriptionLines_eq {below : List (Nat × Line)}
    (read : (ofLines known place below).failure = none) :
    ((ofLines known place below).outcomes.takeWhile (!Document.isDeclared ·)).filterMap
        Document.descriptionLine? =
      if place.describing = true then Line.descriptionBelow below else [] := by
  induction below generalizing place with
  | nil => simp [ofLines, Line.descriptionBelow]
  | cons l rest ih =>
    obtain ⟨n, line⟩ := l
    rw [ofLines] at read ⊢
    cases here : Outcome.ofLine known place n line with
    | error failure => simp [here] at read
    | ok outcome =>
      simp only [here] at read ⊢
      have later := ih read
      cases Outcome.comes_of_ofLine here with
      | fenced | blank =>
        rw [List.takeWhile_cons_of_pos rfl, List.filterMap_cons_none rfl, later,
          Line.descriptionBelow_cons rfl]
        rfl
      | declared name description text =>
        rw [List.takeWhile_cons_of_neg (by simp [Document.isDeclared]),
          Line.descriptionBelow_cons_of_isMark rfl]
        simp
      | heading | stated owned classified | unrecognized owned declined =>
        -- What follows a bullet or a heading does not describe.
        rw [List.takeWhile_cons_of_pos rfl, List.filterMap_cons_none rfl, later,
          Line.descriptionBelow_cons_of_isMark rfl]
        simp [Place.after]
      | described describing =>
        rw [List.takeWhile_cons_of_pos rfl, List.filterMap_cons, later, Line.descriptionBelow_cons rfl,
          Place.after, describing]
        rfl
      | unbulleted beyond owned like =>
        rw [List.takeWhile_cons_of_pos rfl, List.filterMap_cons_none rfl, later, Place.after, beyond]
        rfl
      | ignored beyond unlike =>
        rw [List.takeWhile_cons_of_pos rfl, List.filterMap_cons_none rfl, later, Place.after, beyond]
        rfl

/-! ## Bullets without an owner -/

/-- Below a header no bullet lacks an owner. -/
theorem failure_ne_orphan {owner : String} {ls : List (Nat × Line)}
    (owned : place.owner = some owner) (n : Nat) :
    (ofLines known place ls).failure ≠ some (.orphanBullet n) := by
  induction ls generalizing place owner with
  | nil => simp [ofLines]
  | cons l rest ih =>
    obtain ⟨m, line⟩ := l
    rw [ofLines]
    cases here : Outcome.ofLine known place m line with
    | error failure =>
      intro stopped
      cases Option.some.inj stopped
      cases Outcome.fails_of_ofLine here with
      | orphan top => simp [top] at owned
    | ok outcome =>
      cases line with
      | header name description text =>
        have named : (place.after (.header name description text)).owner = some name := rfl
        exact ih named
      | fenced | blank | heading | bullet body | prose text =>
        exact ih ((Place.owner_after rfl).trans owned)

/-- Above all headers the first bullet stops the reading, and nothing else does. -/
theorem failure_eq_orphan_iff {ls : List (Nat × Line)} (top : place.owner = none) (n : Nat) :
    (ofLines known place ls).failure = some (.orphanBullet n) ↔
      ∃ body, ls.find? (fun l => l.2.isHeader || l.2.isBullet) = some (n, .bullet body) := by
  induction ls generalizing place with
  | nil => simp [ofLines]
  | cons l rest ih =>
    obtain ⟨m, line⟩ := l
    rw [ofLines]
    cases here : Outcome.ofLine known place m line with
    | error failure =>
      cases Outcome.fails_of_ofLine here with
      | orphan top => simp [Line.isHeader, Line.isBullet]
      | bullet owned fails => simp [top] at owned
      | prose beyond owned fails => simp [top] at owned
    | ok outcome =>
      cases line with
      | header name description text =>
        have owned : (place.after (.header name description text)).owner = some name := rfl
        simp [Line.isHeader, failure_ne_orphan owned]
      | bullet body =>
        cases Outcome.comes_of_ofLine here with
        | stated owned classified => simp [top] at owned
        | unrecognized owned declined => simp [top] at owned
      | fenced | blank | heading | prose text =>
        rw [List.find?_cons_of_neg (by simp [Line.isHeader, Line.isBullet])]
        exact ih ((Place.owner_after rfl).trans top)

end Trace

/-! ## Texts and their documents -/

namespace Document

open Outcome (Place)

/-- A document accounts for every line of a text.

* Each line contributes what its form and its place make it contribute, and no statement or entry
  stands at any other number.
* A line of prose that describes an entity is in the description of the last header above it.
* Statements are in the order of their lines, and so are the entries among what was not understood;
  no line has both.
* To each entry belongs a warning about it, in the same order.
* The entity names are those of the declarations, later spellings of a name left out. -/
structure Covers (text : String) (doc : Document) : Prop where
  lines : ∀ above n line below, Line.ofText text = above ++ (n, line) :: below →
    line.Contributes doc.entityNames above n below
      (doc.statements.filter (·.line == n)) (doc.unparsed.filter (·.line == n))
  within : ∀ n, n ∈ doc.statements.map (·.line) ∨ n ∈ doc.unparsed.map (·.line) →
    n ∈ (Line.ofText text).map (·.1)
  described : ∀ above n prose below, Line.ofText text = above ++ (n, .prose prose) :: below →
    Line.describesAbove above = true →
      ∃ front m name description header between,
        above = front ++ (m, .header name description header) :: between ∧
        (∀ l ∈ between, l.2.isMark = false) ∧
        String.ofList prose ∈ Line.descriptionBelow (between ++ (n, .prose prose) :: below)
  statementLines : (doc.statements.map (·.line)).Pairwise (· < ·)
  unparsedLines : (doc.unparsed.map (·.line)).Pairwise (· < ·)
  disjoint : ∀ s ∈ doc.statements, ∀ u ∈ doc.unparsed, s.line ≠ u.line
  warned : List.Forall₂ (fun u d => d.line = u.line ∧ d.finding.code = .parseWarning ∧
    d.finding.details = [("owner", .text u.owner), ("text", .text u.text)])
    doc.unparsed doc.diagnostics
  names : doc.entityNames =
    ((Draft.declarations doc.statements).map (·.name)).eraseDupsBy (Name.key · == Name.key ·)

/-- Entering names one by one keeps the first spelling of each. -/
theorem foldl_enter_eq_eraseDupsBy (names : List String) :
    names.foldl Line.enter [] = names.eraseDupsBy (Name.key · == Name.key ·) := by
  have loop (names entered : List String) : names.foldl Line.enter entered.reverse =
      List.eraseDupsBy.loop (Name.key · == Name.key ·) names entered := by
    induction names generalizing entered with
    | nil => rfl
    | cons name names ih =>
      have same : entered.reverse.any (Name.key · == Name.key name) =
          entered.any (Name.key name == Name.key ·) := by
        have swapped : (fun other => Name.key other == Name.key name) =
            fun other => Name.key name == Name.key other := by
          funext other
          exact Bool.beq_comm
        rw [List.any_reverse, swapped]
      rw [List.foldl_cons, List.eraseDupsBy.loop, Line.enter, same]
      cases entered.any (Name.key name == Name.key ·) with
      | true => exact ih entered
      | false => exact List.reverse_cons ▸ ih (name :: entered)
  exact loop names []

/-- Entries and warnings correspond. -/
theorem forall₂_unparsed_diagnostics (outcomes : List (Nat × Outcome)) :
    List.Forall₂ (fun u d => d.line = u.line ∧ d.finding.code = .parseWarning ∧
        d.finding.details = [("owner", .text u.owner), ("text", .text u.text)])
      (outcomes.filterMap unparsed?) (outcomes.filterMap diagnostic?) := by
  induction outcomes with
  | nil => exact .nil
  | cons o rest ih =>
    obtain ⟨n, outcome⟩ := o
    cases outcome with
    | unrecognized owner text | unbulleted owner text => exact .cons ⟨rfl, rfl, rfl⟩ ih
    | skipped | declared name description text | stated f | described text | ignored => exact ih

/-- A line contributes what its outcome does. -/
theorem contributes_of_comes {known : List String} {above below : List (Nat × Line)} {n : Nat}
    {line : Line} {outcome : Outcome} (trimmed : ∀ prose, line = .prose prose → Line.Trimmed prose)
    (comes : Outcome.Comes known (Place.top.behind above) n line outcome)
    (read : (Trace.ofLines known ((Place.top.behind above).after line) below).failure = none) :
    line.Contributes known above n below
      (statement? (Trace.ofLines known ((Place.top.behind above).after line) below).outcomes
        (n, outcome)).toList (unparsed? (n, outcome)).toList := by
  rw [Place.behind_top] at comes
  cases comes with
  | fenced => exact .fenced
  | blank => exact .blank
  | heading => exact .heading
  | declared name description text =>
    have more := Trace.descriptionLines_eq read
    rw [Place.after, if_pos rfl] at more
    rw [statement?, Place.after, more]
    exact .declared name description text
  | stated owned classified => exact .stated owned classified
  | unrecognized owned declined => exact .unrecognized owned declined
  | described describing => exact .described describing
  | unbulleted beyond owned like =>
    exact .unbulleted beyond owned ((Line.readsLikeFact_iff (trimmed _ rfl)).mp like)
  | ignored beyond unlike =>
    refine .ignored beyond fun owner owned would => ?_
    have like := (Line.readsLikeFact_iff (trimmed _ rfl)).mpr would
    cases (unlike owner owned).symm.trans like

section Outcomes

variable {text : String} (read : (Trace.ofText text).failure = none) (names : List String)

include read

theorem numbers_outcomes : (Trace.ofText text).outcomes.map (·.1) = (Line.ofText text).map (·.1) :=
  Trace.map_fst_outcomes read

theorem lines_statements_sublist :
    ((ofOutcomes names (Trace.ofText text).outcomes).statements.map (·.line)).Sublist
      ((Line.ofText text).map (·.1)) := by
  rw [← numbers_outcomes read, ofOutcomes, statementsOf_eq_gather]
  exact map_gather_sublist fun o mem => line_of_statement? (Trace.statedInPlace o mem)

theorem lines_unparsed_sublist :
    ((ofOutcomes names (Trace.ofText text).outcomes).unparsed.map (·.line)).Sublist
      ((Line.ofText text).map (·.1)) := by
  rw [← numbers_outcomes read, ofOutcomes, filterMap_unparsed_eq_gather]
  exact map_gather_sublist fun o _ _ => line_of_unparsed? o

/-- What of the document stands at the number of a line is what the line contributes. -/
theorem contributes_of_split {above below : List (Nat × Line)} {n : Nat} {line : Line}
    (split : Line.ofText text = above ++ (n, line) :: below) :
    line.Contributes (Line.scannedNames text) above n below
      ((ofOutcomes names (Trace.ofText text).outcomes).statements.filter (·.line == n))
      ((ofOutcomes names (Trace.ofText text).outcomes).unparsed.filter (·.line == n)) := by
  have apart : ((Trace.ofText text).outcomes.map (·.1)).Pairwise (· < ·) :=
    numbers_outcomes read ▸ Line.pairwise_ofText text
  have trimmed (prose : List Char) (isProse : line = .prose prose) : Line.Trimmed prose := by
    have mem : (n, .prose prose) ∈ Line.ofText text := by simp [split, isProse]
    exact Line.trimmed_of_mem_ofText mem
  rw [ofOutcomes, statementsOf_eq_gather, filterMap_unparsed_eq_gather]
  rw [Trace.ofText] at read apart ⊢
  generalize Line.scannedNames text = known at *
  rw [split] at read apart ⊢
  obtain ⟨outcome, here, later, outcomes⟩ := Trace.exists_outcome read
  have inPlace (o) (mem : o ∈ (Trace.ofLines known .top (above ++ (n, line) :: below)).outcomes) :=
    line_of_statement? (Trace.statedInPlace o mem)
  rw [outcomes] at apart inPlace ⊢
  rw [filter_gather inPlace apart, filter_gather (fun o _ _ => line_of_unparsed? o) apart]
  exact contributes_of_comes trimmed (Outcome.comes_of_ofLine here) later

theorem line_ne_of_mem {s : Statement} {u : Unparsed}
    (stated : s ∈ (ofOutcomes names (Trace.ofText text).outcomes).statements)
    (left : u ∈ (ofOutcomes names (Trace.ofText text).outcomes).unparsed) : s.line ≠ u.line := by
  intro same
  have within := (lines_statements_sublist read names).subset (List.mem_map_of_mem stated)
  obtain ⟨⟨n, line⟩, mem, atLine⟩ := List.mem_map.mp within
  obtain ⟨above, below, split⟩ := List.append_of_mem mem
  obtain rfl : n = s.line := atLine
  have statement := List.mem_filter (p := (·.line == s.line)).mpr ⟨stated, beq_self_eq_true _⟩
  have entry := List.mem_filter (p := (·.line == s.line)).mpr ⟨left, beq_iff_eq.mpr same.symm⟩
  rcases (contributes_of_split read names split).eq_nil_or_eq_nil with noStatement | noEntry
  · exact List.not_mem_nil (noStatement ▸ statement)
  · exact List.not_mem_nil (noEntry ▸ entry)

end Outcomes

theorem parse_eq_orphan_iff {text : String} {n : Nat} :
    parse text = .error (.orphanBullet n) ↔
      ∃ body, (Line.ofText text).find? (fun l => l.2.isHeader || l.2.isBullet) =
        some (n, .bullet body) := by
  have fails : parse text = .error (.orphanBullet n) ↔
      (Trace.ofText text).failure = some (.orphanBullet n) := by
    simp only [parse]
    split <;> simp [*]
  exact fails.trans (Trace.failure_eq_orphan_iff rfl n)

/-- A document that is read from a text accounts for every line of it.  Reading stops for want of an
owner exactly when the first header or bullet of the text, fences left out, is a bullet. -/
theorem parse_covers (text : String) :
    (∀ i, (Line.ofText text)[i]? = (lines text.toList)[i]?.map fun raw =>
      (i + 1, if Line.IsFenced (lines text.toList) i then .fenced else Line.ofRaw raw)) ∧
    (∀ doc, parse text = .ok doc → doc.Covers text) ∧
    ∀ n, parse text = .error (.orphanBullet n) ↔
      ∃ body, (Line.ofText text).find? (fun l => l.2.isHeader || l.2.isBullet) =
        some (n, .bullet body) := by
  refine ⟨Line.getElem?_ofText text, ?_, fun _ => parse_eq_orphan_iff⟩
  intro doc isDoc
  have names := entityNames_of_parse isDoc
  simp only [parse] at isDoc
  split at isDoc
  · contradiction
  · next read =>
    cases isDoc
    constructor
    · exact fun above n line below => contributes_of_split read _
    · rintro n (stated | left)
      · exact (lines_statements_sublist read _).subset stated
      · exact (lines_unparsed_sublist read _).subset left
    · intro above n prose below split describes
      obtain ⟨front, m, name, description, header, between, cut, plain⟩ :=
        Line.exists_header_of_describesAbove describes
      exact ⟨front, m, name, description, header, between, cut, plain,
        Line.mem_descriptionBelow plain⟩
    · exact (Line.pairwise_ofText text).sublist (lines_statements_sublist read _)
    · exact (Line.pairwise_ofText text).sublist (lines_unparsed_sublist read _)
    · exact fun s stated u left => line_ne_of_mem read _ stated left
    · exact forall₂_unparsed_diagnostics _
    · exact names.trans (foldl_enter_eq_eraseDupsBy _)

/-- A text with lines of every form. -/
def mixedText : String :=
  "# Shop\n**Customer**: Buys\nthings.\n- Customer has many Orders.\nCustomer has a name.\n" ++
    "- Whatever.\n" ++ String.ofList Line.fenceMark ++ "\n- No bullet.\n" ++
    String.ofList Line.fenceMark ++ "\n**Order**\n\n**customer**\n"

theorem covers_mixedText : ∃ doc, parse mixedText = .ok doc ∧
    (doc.statements.map (·.line) = [2, 4, 10, 12] ∧ doc.unparsed.map (·.line) = [5, 6] ∧
      doc.entityNames = ["Customer", "Order"]) ∧
    doc.Covers mixedText := by
  have passes : (match parse mixedText with
      | .ok doc => decide (doc.statements.map (·.line) = [2, 4, 10, 12] ∧
          doc.unparsed.map (·.line) = [5, 6] ∧ doc.entityNames = ["Customer", "Order"])
      | .error _ => false) = true := by
    decide +kernel
  cases read : parse mixedText with
  | error e => simp [read] at passes
  | ok doc =>
    simp only [read] at passes
    exact ⟨doc, rfl, of_decide_eq_true passes, (parse_covers mixedText).2.1 doc read⟩

end Document

end FactModel
