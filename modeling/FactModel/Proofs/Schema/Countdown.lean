import FactModel.Proofs.Schema.Sequence
import Mathlib.Data.List.Dedup
import Mathlib.Logic.Function.Basic

/-!
# Tables counted down

The order of tables can also be found by counting: each table knows how many others it waits for,
and placing a table takes one away from all that refer to it.  These are released in any order.
Whatever it is, the tables that come to be ready are the ones that are available, so that all such
countings come to the same end.
-/

namespace FactModel

/-- What is kept while tables are counted down: how many others a table waits for, the tables that
are ready and those that have been placed. -/
structure Countdown where
  left : Table → Nat
  ready : List Table
  placed : List Table

namespace Countdown

/-- At first a table waits for all that it refers to, and those that refer to none are ready. -/
def start (s : Schema) : Countdown where
  left t := (s.dependencies t).dedup.length
  ready := s.tables.filter fun t => (s.dependencies t).dedup.length == 0
  placed := []

/-- A table that waits for one table less, and is ready when it was the last one. -/
def release (c : Countdown) (t : Table) : Countdown where
  left := Function.update c.left t (c.left t - 1)
  ready := if c.left t - 1 = 0 then t :: c.ready else c.ready
  placed := c.placed

/-- The first table that is ready moves to those that have been placed. -/
def take (c : Countdown) (t : Table) : Countdown :=
  { c with ready := c.ready.erase t, placed := c.placed ++ [t] }

/-- One table is placed, and those that refer to it are released in whatever order. -/
inductive Step (s : Schema) : Countdown → Countdown → Prop where
  | place {c : Countdown} {t : Table} {referrers : List Table}
      (first : Schema.first? c.ready = some t)
      (nodup : referrers.Nodup) (all : ∀ u, u ∈ referrers ↔ s.Refers u t) :
      Step s c (referrers.foldl release (c.take t))

/-- What a countdown comes to: the tables in the order of their places, or the sorted names of those
that still wait. -/
def result (s : Schema) (c : Countdown) : Except (List String) (List Table) :=
  if c.placed.length < s.tables.length then
    .error (((s.tables.filter fun t => decide (0 < c.left t)).map (·.name)).mergeSort fun a b =>
      decide (a ≤ b))
  else .ok c.placed

/-! ## What releasing does -/

theorem placed_foldl_release (c : Countdown) (ts : List Table) :
    (ts.foldl release c).placed = c.placed := by
  induction ts generalizing c with
  | nil => rfl
  | cons t rest ih => exact ih (c.release t)

theorem left_foldl_release (c : Countdown) {ts : List Table} (nodup : ts.Nodup) (u : Table) :
    (ts.foldl release c).left u = if u ∈ ts then c.left u - 1 else c.left u := by
  induction ts generalizing c with
  | nil => simp
  | cons t rest ih =>
    obtain ⟨apart, nodup⟩ := List.nodup_cons.mp nodup
    rw [List.foldl_cons, ih (c.release t) nodup]
    by_cases same : u = t
    · subst same
      simp [release, apart]
    · simp [release, same]

theorem mem_ready_foldl_release (c : Countdown) {ts : List Table} (nodup : ts.Nodup) (u : Table) :
    u ∈ (ts.foldl release c).ready ↔ u ∈ c.ready ∨ u ∈ ts ∧ c.left u - 1 = 0 := by
  induction ts generalizing c with
  | nil => simp
  | cons t rest ih =>
    obtain ⟨apart, nodup⟩ := List.nodup_cons.mp nodup
    rw [List.foldl_cons, ih (c.release t) nodup]
    by_cases same : u = t
    · subst same
      by_cases last : c.left u - 1 = 0 <;> simp [release, apart, last]
    · by_cases last : c.left t - 1 = 0 <;> simp [release, same, last]

theorem nodup_ready_foldl_release {c : Countdown} {ts : List Table} (nodup : ts.Nodup)
    (readyNodup : c.ready.Nodup) (apart : ∀ t ∈ ts, t ∉ c.ready) :
    (ts.foldl release c).ready.Nodup := by
  induction ts generalizing c with
  | nil => exact readyNodup
  | cons t rest ih =>
    obtain ⟨new, nodup⟩ := List.nodup_cons.mp nodup
    refine ih nodup ?_ fun u mem => ?_
    · rw [release]
      split
      · exact List.nodup_cons.mpr ⟨apart t List.mem_cons_self, readyNodup⟩
      · exact readyNodup
    · have differ : u ≠ t := fun same => new (same ▸ mem)
      have before := apart u (List.mem_cons_of_mem t mem)
      rw [release]
      split
      · exact List.not_mem_cons_of_ne_of_not_mem differ before
      · exact before

end Countdown

namespace Schema

/-! ## Sorted names -/

theorem pairwise_mergeSort_names (names : List String) :
    (names.mergeSort fun a b => decide (a ≤ b)).Pairwise (· ≤ ·) := by
  refine (List.pairwise_mergeSort ?_ ?_ names).imp of_decide_eq_true
  · intro a b c first second
    exact decide_eq_true (String.le_trans (of_decide_eq_true first) (of_decide_eq_true second))
  · intro a b
    simpa using String.le_total a b

theorem mergeSort_eq_of_perm {names names' : List String} (perm : names.Perm names') :
    names.mergeSort (fun a b => decide (a ≤ b)) = names'.mergeSort fun a b => decide (a ≤ b) := by
  refine List.Perm.eq_of_pairwise (fun _ _ _ _ => String.le_antisymm)
    (pairwise_mergeSort_names names) (pairwise_mergeSort_names names') ?_
  exact (List.mergeSort_perm names _).trans (perm.trans (List.mergeSort_perm names' _).symm)

/-! ## Tables that are waited for -/

/-- The names of the tables that a table refers to and that are yet to be placed. -/
def awaited (s : Schema) (placed : List Table) (t : Table) : List String :=
  (s.dependencies t).dedup.filter fun name => !placed.any (·.name == name)

theorem awaited_nil (s : Schema) (t : Table) : s.awaited [] t = (s.dependencies t).dedup :=
  List.filter_eq_self.mpr fun _ _ => rfl

theorem awaited_concat (s : Schema) (placed : List Table) (t u : Table) :
    s.awaited (placed ++ [t]) u = (s.awaited placed u).erase t.name := by
  rw [awaited, awaited, ((List.nodup_dedup _).filter _).erase_eq_filter, List.filter_filter]
  refine List.filter_congr fun name _ => ?_
  rw [List.any_append, List.any_cons, List.any_nil, Bool.or_false, Bool.not_or, Bool.and_comm,
    bne, BEq.comm]

theorem awaited_eq_nil_iff {s : Schema} {placed : List Table} {t : Table} :
    s.awaited placed t = [] ↔ s.isReady placed t = true := by
  simp only [awaited, isReady, List.filter_eq_nil_iff, List.mem_dedup, List.all_eq_true,
    Bool.not_eq_true', Bool.not_eq_false]

section Names

variable {s : Schema} (names : (s.tables.map (·.name)).Nodup)

include names

theorem mem_awaited_iff {placed : List Table} (placedIn : placed ⊆ s.tables) {t u : Table}
    (tMem : t ∈ s.tables) (uMem : u ∈ s.tables) (new : t ∉ placed) :
    t.name ∈ s.awaited placed u ↔ s.Refers u t := by
  have unplaced : placed.any (·.name == t.name) = false := by
    refine List.any_eq_false.mpr fun v mem same => new ?_
    rwa [eq_of_name names tMem (placedIn mem) (eq_of_beq same).symm]
  rw [← needs_iff_refers, Needs, awaited, List.mem_filter, List.mem_dedup, unplaced]
  exact ⟨fun needed => ⟨uMem, tMem, needed.1⟩, fun needed => ⟨needed.2.2, rfl⟩⟩

/-! ## Counting down -/

/-- What holds while tables are counted down: each table waits for as many as it refers to that are
yet to be placed, and those that are available are ready. -/
structure Counted (s : Schema) (c : Countdown) : Prop where
  greedy : s.Greedy c.placed
  left : ∀ t ∈ s.tables, c.left t = (s.awaited c.placed t).length
  ready : ∀ t, t ∈ c.ready ↔ s.Available c.placed t
  once : c.ready.Nodup

theorem counted_start : Counted s (Countdown.start s) where
  greedy := fun front t rest split => by simp [Countdown.start] at split
  left := fun t _ => by simp [Countdown.start, awaited_nil]
  ready := by
    intro t
    have nothing : (s.dependencies t).dedup.length = 0 ↔ s.isReady [] t = true := by
      rw [← awaited_eq_nil_iff, awaited_nil, List.length_eq_zero_iff]
    simp only [Countdown.start, List.mem_filter, beq_iff_eq, nothing, Available]
    refine and_congr_right fun tMem => ?_
    simp [isReady_iff names (List.nil_subset _) tMem]
  once := (List.Nodup.of_map _ names).filter _

theorem Counted.step {c c' : Countdown} (counted : Counted s c) (step : Countdown.Step s c c') :
    Counted s c' := by
  cases step with | @place t referrers first nodup all
  obtain ⟨tMem, new, there⟩ := (counted.ready t).mp (mem_of_first? first)
  have placedIn := counted.greedy.subset
  have placed : (referrers.foldl Countdown.release (c.take t)).placed = c.placed ++ [t] :=
    Countdown.placed_foldl_release _ _
  have greedy : s.Greedy (c.placed ++ [t]) :=
    greedy_concat counted.greedy ⟨tMem, new, there⟩ fun u comes =>
      entity_le_of_first? first u ((counted.ready u).mpr comes)
  have left (u : Table) (uMem : u ∈ s.tables) :
      (if u ∈ referrers then c.left u - 1 else c.left u) =
        (s.awaited (c.placed ++ [t]) u).length := by
    have waits : u ∈ referrers ↔ t.name ∈ s.awaited c.placed u := by
      rw [mem_awaited_iff names placedIn tMem uMem new, all]
    simp only [awaited_concat, List.length_erase, counted.left u uMem, waits]
  refine ⟨placed ▸ greedy, fun u uMem => ?_, fun u => ?_, ?_⟩
  · rw [Countdown.left_foldl_release _ nodup, placed]
    exact left u uMem
  · rw [Countdown.mem_ready_foldl_release _ nodup, placed, all, available_concat_iff greedy]
    refine or_congr ?_ (and_congr_right fun refers => ?_)
    · rw [← counted.ready, ← counted.once.mem_erase_iff]
      rfl
    · have none := left u refers.1
      rw [if_pos ((all u).mpr refers)] at none
      rw [← isReady_iff names greedy.subset refers.1, ← awaited_eq_nil_iff,
        ← List.length_eq_zero_iff, ← none]
      rfl
  · refine Countdown.nodup_ready_foldl_release nodup (counted.once.erase t) fun u mem ready => ?_
    have ready := (counted.ready u).mp (List.mem_of_mem_erase ready)
    exact new (ready.2.2 t ((all u).mp mem))

/-- What is kept by placing one table is kept by a whole countdown. -/
theorem counted_of_run {c : Countdown}
    (run : Relation.ReflTransGen (Countdown.Step s) (Countdown.start s) c) : Counted s c := by
  induction run with
  | refl => exact counted_start names
  | tail _ step counted => exact counted.step names step

/-- A countdown goes on until no table is ready. -/
theorem Counted.finishes {c : Countdown} (counted : Counted s c) {bound : Nat}
    (enough : s.tables.length ≤ c.placed.length + bound) :
    ∃ c', Relation.ReflTransGen (Countdown.Step s) c c' ∧ c'.ready = [] := by
  classical
  induction bound generalizing c with
  | zero =>
    refine ⟨c, .refl, List.eq_nil_iff_forall_not_mem.mpr fun t ready => ?_⟩
    have available := (counted.ready t).mp ready
    exact available.2.1 (counted.greedy.mem_of_length_le enough available.1)
  | succ bound ih =>
    cases first : first? c.ready with
    | none => exact ⟨c, .refl, eq_nil_of_first? first⟩
    | some t =>
      have step : Countdown.Step s c
          ((s.tables.filter fun u => s.Refers u t).foldl Countdown.release (c.take t)) := by
        refine .place first ((List.Nodup.of_map _ names).filter _) fun u => ?_
        rw [List.mem_filter, decide_eq_true_eq]
        exact and_iff_right_of_imp And.left
      obtain ⟨c', run, finished⟩ := ih (counted.step names step) <| by
        rw [Countdown.placed_foldl_release]
        show _ ≤ (c.placed ++ [t]).length + bound
        rw [List.length_append, List.length_singleton]
        omega
      exact ⟨c', run.head step, finished⟩

/-! ## What a countdown comes to -/

/-- Those that still wait when no table is ready are those that are not placed. -/
theorem Counted.left_pos_iff {c : Countdown} (counted : Counted s c) (finished : c.ready = [])
    {t : Table} (tMem : t ∈ s.tables) : 0 < c.left t ↔ t ∉ c.placed := by
  have waits : 0 < c.left t ↔ ¬∀ u, s.Refers t u → u ∈ c.placed := by
    rw [counted.left t tMem, List.length_pos_iff, Ne, awaited_eq_nil_iff,
      isReady_iff names counted.greedy.subset tMem]
  rw [waits, not_iff_not]
  refine ⟨fun there => ?_, fun mem u => counted.greedy.mem_of_refers mem⟩
  by_contra new
  have ready : t ∈ c.ready := (counted.ready t).mpr ⟨tMem, new, there⟩
  simp [finished] at ready

/-- A countdown comes to the order of creation. -/
theorem Counted.result_eq (entities : (s.tables.map (·.entity)).Nodup) {c : Countdown}
    (counted : Counted s c) (finished : c.ready = []) : c.result s = s.creationOrder := by
  cases final : s.place s.tables.length [] s.tables with
  | mk placed waiting =>
    obtain ⟨sequenced, exhausted, -⟩ := sequenced_place names final
    have same : c.placed = placed := counted.greedy.eq_of_exhausted entities sequenced.greedy
      (fun t => by simp [← counted.ready, finished]) exhausted
    have lengths : placed.length + waiting.length = s.tables.length := by
      simpa using sequenced.all.length_eq
    have remaining : (s.tables.filter fun t => decide (0 < c.left t)).Perm waiting := by
      refine (List.perm_ext_iff_of_nodup ((List.Nodup.of_map _ names).filter _)
        (List.nodup_append.mp (sequenced.nodup names)).2.1).mpr fun t => ?_
      rw [List.mem_filter, decide_eq_true_eq, sequenced.mem_waiting_iff names, ← same]
      exact and_congr_right fun tMem => counted.left_pos_iff names finished tMem
    rw [Countdown.result, creationOrder, final, same, mergeSort_eq_of_perm (remaining.map _)]
    cases waiting with
    | nil => exact if_neg (by simp [← lengths])
    | cons t rest => exact if_pos (by simp [← lengths])

end Names

/-! ## The order of creation -/

theorem creationOrder_eq_error {s : Schema} {placed waiting : List Table}
    (final : s.place s.tables.length [] s.tables = (placed, waiting)) (some : waiting ≠ []) :
    s.creationOrder =
      .error ((waiting.map (·.name)).mergeSort fun a b => decide (a ≤ b)) := by
  simp [creationOrder, final, some]

/-- What the order of creation is when there is one: of the sequences in which tables come after
those they refer to it is the greedy one, and the first in the order of entities. -/
structure Canonical (s : Schema) (ordered : List Table) : Prop extends s.Ordered ordered where
  greedy : s.Greedy ordered
  only : ∀ l, s.Ordered l → s.Greedy l → l = ordered
  first : ∀ l, s.Ordered l →
    l = ordered ∨ List.Lex (· < ·) (ordered.map (·.entity)) (l.map (·.entity))

/-- The names of the tables that cannot be placed, each one once and in order. -/
structure Leftover (s : Schema) (failing : List String) : Prop where
  sorted : failing.Pairwise (· ≤ ·)
  once : failing.Nodup
  mem_iff : ∀ name, name ∈ failing ↔ ∃ t, s.Stuck t ∧ t.name = name

theorem Greedy.canonical {s : Schema} (entities : (s.tables.map (·.entity)).Nodup)
    {ordered : List Table} (greedy : s.Greedy ordered) (all : ordered.Perm s.tables) :
    s.Canonical ordered where
  all := all
  after := fun front t rest split => (greedy front t rest split).1.2.2
  greedy := greedy
  only := by
    have exhausted {l : List Table} (all : l.Perm s.tables) (t : Table) : ¬s.Available l t :=
      fun available => available.2.1 (all.mem_iff.mpr available.1)
    exact fun l another greedy' =>
      greedy'.eq_of_exhausted entities greedy (exhausted another.all) (exhausted all)
  first := fun l another => greedy.eq_or_lex entities all another

theorem Sequenced.leftover {s : Schema} (names : (s.tables.map (·.name)).Nodup)
    {placed waiting : List Table} (sequenced : Sequenced s placed waiting)
    (stuck : ∀ t, t ∈ waiting ↔ s.Stuck t) :
    s.Leftover ((waiting.map (·.name)).mergeSort fun a b => decide (a ≤ b)) where
  sorted := pairwise_mergeSort_names _
  once := by
    have nodup : ((placed ++ waiting).map (·.name)).Nodup :=
      (sequenced.all.map _).nodup_iff.mpr names
    rw [List.map_append] at nodup
    exact (List.mergeSort_perm _ _).nodup_iff.mpr (List.nodup_append.mp nodup).2.1
  mem_iff := fun name => by simp only [List.mem_mergeSort, List.mem_map, stuck]

end Schema

/-- Tables of different names and entities that do not refer to each other in a circle are put into
their one canonical order.  Otherwise the tables on a circle are named and all that refer to them in
the end.  Counting down comes to the same, in whatever order tables are released. -/
theorem creationOrder_canonical {s : Schema} (names : (s.tables.map (·.name)).Nodup)
    (entities : (s.tables.map (·.entity)).Nodup) :
    (¬s.Circular → ∃ ordered, s.creationOrder = .ok ordered ∧ s.Canonical ordered) ∧
      (s.Circular → ∃ failing, s.creationOrder = .error failing ∧ s.Leftover failing) ∧
      ∀ outcome, outcome = s.creationOrder ↔
        ∃ c, Relation.ReflTransGen (Countdown.Step s) (Countdown.start s) c ∧ c.ready = [] ∧
          c.result s = outcome := by
  cases final : s.place s.tables.length [] s.tables with
  | mk placed waiting =>
    obtain ⟨sequenced, -, stuck⟩ := Schema.sequenced_place names final
    refine ⟨fun free => ?_, ?_, fun outcome => ⟨?_, ?_⟩⟩
    · obtain rfl : waiting = [] := List.eq_nil_iff_forall_not_mem.mpr fun t waits => by
        obtain ⟨u, -, circle⟩ := (stuck t).mp waits
        exact free ⟨u, circle⟩
      refine ⟨placed, by simp [Schema.creationOrder, final], ?_⟩
      exact sequenced.greedy.canonical entities (by simpa using sequenced.all)
    · rintro ⟨t, circle⟩
      have waits : t ∈ waiting := (stuck t).mpr ⟨t, .refl, circle⟩
      exact ⟨_, Schema.creationOrder_eq_error final (List.ne_nil_of_mem waits),
        sequenced.leftover names stuck⟩
    · rintro rfl
      obtain ⟨c, run, finished⟩ := (Schema.counted_start names).finishes names
        (Nat.le_add_left s.tables.length _)
      exact ⟨c, run, finished, (Schema.counted_of_run names run).result_eq names entities finished⟩
    · rintro ⟨c, run, finished, rfl⟩
      exact (Schema.counted_of_run names run).result_eq names entities finished

/-- A table without columns, with foreign keys to some others. -/
def Table.linked (name : String) (entity : Nat) (others : List String) : Table where
  name := name
  entity := entity
  columns := []
  primaryKey := []
  foreignKeys := others.map fun other =>
    { column := other, refTable := other, refColumn := "id", relationship := 0, sharedBy := [] }

/-- Orders refer twice to customers, to themselves and to a table that is missing, fans to teams and
teams to players. -/
def Schema.clubs (fromPlayers : List String) : Schema where
  tables := [.linked "order" 0 ["customer", "order", "customer", "invoice"],
    .linked "team" 1 ["player"], .linked "player" 2 fromPlayers, .linked "fan" 3 ["team"],
    .linked "customer" 4 []]

theorem creationOrder_clubs :
    (∀ fromPlayers, ((Schema.clubs fromPlayers).tables.map (·.name)).Nodup ∧
      ((Schema.clubs fromPlayers).tables.map (·.entity)).Nodup) ∧
    (∃ ordered, (Schema.clubs []).creationOrder = .ok ordered ∧
      ordered.map (·.name) = ["player", "team", "fan", "customer", "order"] ∧
      (Schema.clubs []).Canonical ordered) ∧
    (Schema.clubs ["team"]).creationOrder = .error ["fan", "player", "team"] ∧
      (Schema.clubs ["team"]).Leftover ["fan", "player", "team"] := by
  have names (fromPlayers : List String) :
      ((Schema.clubs fromPlayers).tables.map (·.name)).Nodup := by
    simp [Schema.clubs, Table.linked]
  have entities (fromPlayers : List String) :
      ((Schema.clubs fromPlayers).tables.map (·.entity)).Nodup := by
    simp [Schema.clubs, Table.linked]
  refine ⟨fun fromPlayers => ⟨names fromPlayers, entities fromPlayers⟩, ?_, ?_⟩
  · have order : (Schema.clubs []).creationOrder.map (·.map (·.name)) =
        .ok ["player", "team", "fan", "customer", "order"] := by decide +kernel
    obtain ⟨free, circular, -⟩ := creationOrder_canonical (names []) (entities [])
    have noCircle : ¬(Schema.clubs []).Circular := fun circle => by
      obtain ⟨failing, error, -⟩ := circular circle
      simp [error, Except.map] at order
    obtain ⟨ordered, ok, canonical⟩ := free noCircle
    exact ⟨ordered, ok, by simpa [ok, Except.map] using order, canonical⟩
  · have order : (Schema.clubs ["team"]).creationOrder = .error ["fan", "player", "team"] := by
      have waiting : ((Schema.clubs ["team"]).place 5 [] (Schema.clubs ["team"]).tables).2.map
          (·.name) = ["team", "player", "fan"] := by decide +kernel
      have some : ((Schema.clubs ["team"]).place 5 [] (Schema.clubs ["team"]).tables).2 ≠ [] :=
        fun none => by simp [none] at waiting
      rw [Schema.creationOrder_eq_error rfl some]
      refine congrArg Except.error ((congrArg (List.mergeSort · _) waiting).trans ?_)
      simp [List.mergeSort]
    obtain ⟨free, circular, -⟩ := creationOrder_canonical (names ["team"]) (entities ["team"])
    have circle : (Schema.clubs ["team"]).Circular := by
      by_contra none
      obtain ⟨ordered, ok, -⟩ := free none
      simp [order] at ok
    obtain ⟨failing, error, leftover⟩ := circular circle
    obtain rfl : ["fan", "player", "team"] = failing := by simpa [order] using error
    exact ⟨order, leftover⟩

end FactModel
