import FactModel.Proofs.Schema.Ordering
import Mathlib.Data.List.Perm.Basic

/-!
# The one sequence of tables

Of the sequences in which every table follows those it refers to, one takes the table of the first
entity wherever several could come next.  It is also the first of them in the order of their
entities.  Placing tables builds that sequence, and what it leaves over are the tables that lie on a
circle of references or refer to one in the end.
-/

namespace FactModel.Schema

/-- Whether a table has a foreign key to another one of the schema. -/
def Refers (s : Schema) (t u : Table) : Prop :=
  t ∈ s.tables ∧ u ∈ s.tables ∧ u.name ≠ t.name ∧ ∃ k ∈ t.foreignKeys, k.refTable = u.name

/-- Whether tables refer to each other in a circle. -/
def Circular (s : Schema) : Prop :=
  ∃ t, Relation.TransGen s.Refers t t

/-- Whether a table lies on a circle of references or refers to one in the end. -/
def Stuck (s : Schema) (t : Table) : Prop :=
  ∃ u, Relation.ReflTransGen s.Refers t u ∧ Relation.TransGen s.Refers u u

/-- Whether a table can come next: it is yet to come and all it refers to is there. -/
def Available (s : Schema) (front : List Table) (t : Table) : Prop :=
  t ∈ s.tables ∧ t ∉ front ∧ ∀ u, s.Refers t u → u ∈ front

/-- Sequences of all tables in which each one comes after those it refers to. -/
structure Ordered (s : Schema) (l : List Table) : Prop where
  all : l.Perm s.tables
  after : ∀ front t rest, l = front ++ t :: rest → ∀ u, s.Refers t u → u ∈ front

/-- Sequences in which each table is available when it comes and no other one that is available
belongs to an earlier entity. -/
def Greedy (s : Schema) (l : List Table) : Prop :=
  ∀ front t rest, l = front ++ t :: rest →
    s.Available front t ∧ ∀ u, s.Available front u → t.entity ≤ u.entity

theorem needs_iff_refers {s : Schema} {t u : Table} : s.Needs t u ↔ s.Refers t u :=
  Schema.needs_iff

theorem Stuck.mem {s : Schema} {t : Table} : s.Stuck t → t ∈ s.tables := by
  rintro ⟨u, reaches, circle⟩
  obtain ⟨_, refers, -⟩ := Relation.TransGen.head'_iff.mp (.trans_right reaches circle)
  exact refers.1

theorem entity_le_of_precedes {t u : Table} (before : precedes t u = true) :
    t.entity ≤ u.entity := by
  simp only [precedes, Bool.or_eq_true, Bool.and_eq_true, decide_eq_true_eq, beq_iff_eq] at before
  omega

theorem entity_le_of_not_precedes {t u : Table} (before : precedes u t = false) :
    t.entity ≤ u.entity := by
  simp only [precedes, Bool.or_eq_false_iff, decide_eq_false_iff_not] at before
  omega

/-- The first of some tables belongs to the first of their entities. -/
theorem entity_le_of_first? {ts : List Table} {t : Table} (first : first? ts = some t) :
    ∀ u ∈ ts, t.entity ≤ u.entity := by
  induction ts generalizing t with
  | nil => simp
  | cons v rest ih =>
    rw [first?] at first
    cases later : first? rest with
    | none =>
      simp only [later, Option.some.injEq] at first
      simp [eq_nil_of_first? later, first]
    | some w =>
      simp only [later] at first
      refine List.forall_mem_cons.mpr ?_
      split at first
      case isTrue before =>
        obtain rfl := Option.some.inj first
        exact ⟨entity_le_of_precedes before, ih later⟩
      case isFalse after =>
        obtain rfl := Option.some.inj first
        have here := entity_le_of_not_precedes (Bool.not_eq_true _ ▸ after)
        exact ⟨Nat.le_refl _, fun u mem => here.trans (ih later u mem)⟩

/-- A sequence with one more table splits at that table or before it. -/
theorem greedy_concat {s : Schema} {l : List Table} {t : Table} (greedy : s.Greedy l)
    (available : s.Available l t) (least : ∀ u, s.Available l u → t.entity ≤ u.entity) :
    s.Greedy (l ++ [t]) := by
  intro front u rest split
  rcases List.eq_nil_or_concat rest with rfl | ⟨rest, last, rfl⟩
  · obtain ⟨rfl, same⟩ := List.append_inj' split rfl
    obtain rfl := List.singleton_inj.mp same
    exact ⟨available, least⟩
  · have whole : l ++ [t] = (front ++ u :: rest) ++ [last] := by simpa using split
    exact greedy front u rest (List.append_inj' whole rfl).1

theorem Greedy.of_append {s : Schema} {l rest : List Table} (greedy : s.Greedy (l ++ rest)) :
    s.Greedy l := fun front t rest' split =>
  greedy front t (rest' ++ rest) (by rw [split, List.append_assoc, List.cons_append])

theorem Greedy.subset {s : Schema} {l : List Table} (greedy : s.Greedy l) : l ⊆ s.tables := by
  intro t mem
  obtain ⟨front, rest, split⟩ := List.append_of_mem mem
  exact (greedy front t rest split).1.1

theorem Greedy.mem_of_refers {s : Schema} {l : List Table} (greedy : s.Greedy l) {t u : Table}
    (mem : t ∈ l) (refers : s.Refers t u) : u ∈ l := by
  obtain ⟨front, rest, split⟩ := List.append_of_mem mem
  have before := (greedy front t rest split).1.2.2 u refers
  exact split ▸ List.mem_append_left _ before

theorem Greedy.nodup {s : Schema} {l : List Table} (greedy : s.Greedy l) : l.Nodup := by
  induction l using List.reverseRecOn with
  | nil => exact List.nodup_nil
  | append_singleton front t ih =>
    have new := (greedy front t [] rfl).1.2.1
    refine List.nodup_append.mpr ⟨ih greedy.of_append, List.nodup_singleton t, ?_⟩
    rintro u mem _ last rfl
    exact new (List.mem_singleton.mp last ▸ mem)

/-- A greedy sequence as long as the list of tables leaves none out. -/
theorem Greedy.mem_of_length_le {s : Schema} {l : List Table} (greedy : s.Greedy l)
    (enough : s.tables.length ≤ l.length) {t : Table} (mem : t ∈ s.tables) : t ∈ l :=
  ((greedy.nodup.subperm greedy.subset).perm_of_length_le enough).mem_iff.mpr mem

/-- After one more table, those come next that could come before it and those that refer to it and
to no other table that is missing. -/
theorem available_concat_iff {s : Schema} {l : List Table} {t : Table}
    (greedy : s.Greedy (l ++ [t])) (u : Table) : s.Available (l ++ [t]) u ↔
      u ≠ t ∧ s.Available l u ∨ s.Refers u t ∧ ∀ v, s.Refers u v → v ∈ l ++ [t] := by
  obtain ⟨⟨-, new, -⟩, -⟩ := greedy l t [] rfl
  constructor
  · rintro ⟨uMem, new', there⟩
    by_cases refers : s.Refers u t
    · exact .inr ⟨refers, there⟩
    · simp only [List.mem_append, List.mem_singleton, not_or] at new' there
      refine .inl ⟨new'.2, uMem, new'.1, fun v refers' => (there v refers').resolve_right ?_⟩
      rintro rfl
      exact refers refers'
  · rintro (⟨differ, uMem, new', there⟩ | ⟨refers, there⟩)
    · have new'' : u ∉ l ++ [t] := by simp [new', differ]
      exact ⟨uMem, new'', fun v refers => List.mem_append_left _ (there v refers)⟩
    · -- All that a placed table refers to has been placed before it.
      refine ⟨refers.1, fun mem => ?_, there⟩
      rcases List.mem_append.mp mem with before | now
      · exact new (greedy.of_append.mem_of_refers before refers)
      · exact refers.2.2.1 (by rw [List.mem_singleton.mp now])

section Entities

variable {s : Schema} (entities : (s.tables.map (·.entity)).Nodup)

include entities

theorem eq_of_entity {t u : Table} (tMem : t ∈ s.tables) (uMem : u ∈ s.tables)
    (same : t.entity = u.entity) : t = u :=
  List.inj_on_of_nodup_map entities tMem uMem same

/-- Two greedy sequences that go on as long as a table is available are the same. -/
theorem Greedy.eq_of_exhausted {l l' : List Table} (greedy : s.Greedy l) (greedy' : s.Greedy l')
    (exhausted : ∀ t, ¬s.Available l t) (exhausted' : ∀ t, ¬s.Available l' t) : l = l' := by
  suffices onwards : ∀ front rest rest', l = front ++ rest → l' = front ++ rest' → rest = rest' by
    simpa using onwards [] l l' rfl rfl
  intro front rest
  induction rest generalizing front with
  | nil =>
    rintro rest' here there
    cases rest' with
    | nil => rfl
    | cons t rest' =>
      have available := (greedy' front t rest' there).1
      exact absurd available (by simpa [here] using exhausted t)
  | cons t rest ih =>
    rintro rest' here there
    obtain ⟨available, least⟩ := greedy front t rest here
    cases rest' with
    | nil => exact absurd available (by simpa [there] using exhausted' t)
    | cons t' rest' =>
      obtain ⟨available', least'⟩ := greedy' front t' rest' there
      obtain rfl : t = t' := eq_of_entity entities available.1 available'.1
        (Nat.le_antisymm (least t' available') (least' t available))
      rw [ih (front ++ [t]) rest' (by simp [here]) (by simp [there])]

/-- Of the sequences in which tables come after those they refer to, a greedy one is the first in
the order of entities. -/
theorem Greedy.eq_or_lex {l l' : List Table} (greedy : s.Greedy l) (all : l.Perm s.tables)
    (ordered : s.Ordered l') :
    l' = l ∨ List.Lex (· < ·) (l.map (·.entity)) (l'.map (·.entity)) := by
  suffices onwards : ∀ front rest rest', l = front ++ rest → l' = front ++ rest' →
      rest' = rest ∨ List.Lex (· < ·) (rest.map (·.entity)) (rest'.map (·.entity)) from
    onwards [] l l' rfl rfl
  have nodup : l'.Nodup := ordered.all.nodup_iff.mpr (List.Nodup.of_map _ entities)
  intro front rest
  induction rest generalizing front with
  | nil =>
    intro rest' here there
    have permuted : (front ++ []).Perm (front ++ rest') :=
      here ▸ there ▸ all.trans ordered.all.symm
    exact .inl ((List.perm_append_left_iff front).mp permuted).nil_eq.symm
  | cons t rest ih =>
    intro rest' here there
    have permuted : (front ++ t :: rest).Perm (front ++ rest') :=
      here ▸ there ▸ all.trans ordered.all.symm
    cases rest' with
    | nil => exact absurd permuted.length_eq (by simp)
    | cons t' rest' =>
      have available : s.Available front t' := by
        refine ⟨ordered.all.subset (by simp [there]), fun before => ?_,
          ordered.after front t' rest' there⟩
        rw [there] at nodup
        exact (List.nodup_append.mp nodup).2.2 t' before t' List.mem_cons_self rfl
      obtain ⟨⟨tMem, -⟩, least⟩ := greedy front t rest here
      rcases Nat.lt_or_eq_of_le (least t' available) with earlier | same
      · exact .inr (.rel earlier)
      · obtain rfl := eq_of_entity entities tMem available.1 same
        exact (ih (front ++ [t]) rest' (by simp [here]) (by simp [there])).imp
          (congrArg (t :: ·)) .cons

end Entities

section Names

variable {s : Schema} (names : (s.tables.map (·.name)).Nodup)

include names

/-- A table is ready just when all it refers to is there. -/
theorem isReady_iff {placed : List Table} (placedIn : placed ⊆ s.tables) {t : Table}
    (tMem : t ∈ s.tables) : s.isReady placed t = true ↔ ∀ u, s.Refers t u → u ∈ placed := by
  simp only [isReady, List.all_eq_true, List.any_eq_true]
  constructor
  · intro ready u refers
    obtain ⟨-, uMem, needed⟩ := needs_iff_refers.mpr refers
    obtain ⟨v, vMem, same⟩ := ready u.name needed
    rwa [eq_of_name names uMem (placedIn vMem) (eq_of_beq same).symm]
  · intro there name needed
    obtain ⟨u, uMem, named⟩ := List.any_eq_true.mp
      ((Bool.and_eq_true ..).mp (List.mem_filter.mp needed).2).2
    obtain rfl := eq_of_beq named
    exact ⟨u, there u (needs_iff_refers.mp ⟨tMem, uMem, needed⟩), beq_self_eq_true _⟩

/-- What holds while tables are placed.  Those placed and those that wait are all tables, and at
each place stands the table that had to come next. -/
structure Sequenced (s : Schema) (placed waiting : List Table) : Prop where
  all : (placed ++ waiting).Perm s.tables
  greedy : s.Greedy placed

theorem Sequenced.nodup {placed waiting : List Table} (sequenced : Sequenced s placed waiting) :
    (placed ++ waiting).Nodup :=
  sequenced.all.nodup_iff.mpr (List.Nodup.of_map _ names)

theorem Sequenced.mem_waiting_iff {placed waiting : List Table}
    (sequenced : Sequenced s placed waiting) {t : Table} :
    t ∈ waiting ↔ t ∈ s.tables ∧ t ∉ placed := by
  constructor
  · intro waits
    refine ⟨sequenced.all.subset (List.mem_append_right _ waits), fun mem => ?_⟩
    exact (List.nodup_append.mp (sequenced.nodup names)).2.2 t mem t waits rfl
  · rintro ⟨tMem, new⟩
    exact (List.mem_append.mp (sequenced.all.mem_iff.mpr tMem)).resolve_left new

theorem Sequenced.available_iff {placed waiting : List Table}
    (sequenced : Sequenced s placed waiting) (t : Table) :
    s.Available placed t ↔ t ∈ waiting.filter (s.isReady placed) := by
  rw [List.mem_filter, sequenced.mem_waiting_iff names, Available, and_assoc]
  refine and_congr_right fun tMem => and_congr_right fun _ => ?_
  exact (isReady_iff names sequenced.greedy.subset tMem).symm

/-- Placing the first table that is ready. -/
theorem Sequenced.add {placed waiting : List Table} (sequenced : Sequenced s placed waiting)
    {t : Table} (first : first? (waiting.filter (s.isReady placed)) = some t) :
    Sequenced s (placed ++ [t]) (waiting.filter (·.name != t.name)) where
  all := by
    have waits := List.mem_of_mem_filter (mem_of_first? first)
    have waitingIn : waiting ⊆ s.tables := fun u mem =>
      sequenced.all.subset (List.mem_append_right _ mem)
    have nodup : waiting.Nodup := (List.nodup_append.mp (sequenced.nodup names)).2.1
    have taken : waiting.filter (·.name != t.name) = waiting.erase t := by
      rw [nodup.erase_eq_filter]
      refine List.filter_congr fun u mem => ?_
      rw [Bool.eq_iff_iff, bne_iff_ne, bne_iff_ne, not_iff_not]
      exact ⟨eq_of_name names (waitingIn mem) (waitingIn waits), fun same => by rw [same]⟩
    rw [taken, List.append_assoc, List.singleton_append]
    exact ((List.perm_cons_erase waits).symm.append_left placed).trans sequenced.all
  greedy := by
    have available := sequenced.available_iff names
    exact greedy_concat sequenced.greedy ((available t).mpr (mem_of_first? first)) fun u comes =>
      entity_le_of_first? first u ((available u).mp comes)

/-- Placing goes through the tables that come next one after the other and leaves over those that
refer to a circle in the end. -/
theorem sequenced_place {placed waiting : List Table}
    (final : s.place s.tables.length [] s.tables = (placed, waiting)) :
    Sequenced s placed waiting ∧ (∀ t, ¬s.Available placed t) ∧ ∀ t, t ∈ waiting ↔ s.Stuck t := by
  have empty : Sequenced s [] s.tables :=
    ⟨List.Perm.refl _, fun front t rest split => by simp at split⟩
  have start : Placing s [] s.tables :=
    ⟨fun t mem => .inr mem, List.nil_subset _, List.Subset.refl _, by simp⟩
  obtain ⟨sequenced, noneReady⟩ := place_induction (fun before => Sequenced.add names before) empty
    (Nat.le_refl s.tables.length)
  obtain ⟨placing, -⟩ := start.run names (Nat.le_refl s.tables.length)
  simp only [final] at sequenced noneReady placing
  refine ⟨sequenced, fun t => by simp [sequenced.available_iff names, noneReady], fun t => ?_⟩
  constructor
  · intro waits
    refine exists_circle_from waits fun u waits => ?_
    have notReady := List.filter_eq_nil_iff.mp noneReady u waits
    obtain ⟨v, waits', needs⟩ := placing.exists_needed waits (by simpa using notReady)
    exact ⟨v, waits', needs_iff_refers.mp needs⟩
  · rintro stuck
    refine (placing.known t stuck.mem).resolve_left fun there => ?_
    obtain ⟨u, reaches, circle⟩ := stuck
    have founded : Acc (fun u t => s.Refers t u) t := by
      simpa only [needs_iff_refers] using placing.founded t there
    exact not_circle_of_acc (acc_of_reflTransGen founded reaches) circle

end Names

end FactModel.Schema
