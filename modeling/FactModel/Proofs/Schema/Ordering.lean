import FactModel.Schema.Basic
import Mathlib.Data.Fintype.Card
import Mathlib.Data.List.Nodup
import Mathlib.Data.Set.Finite.Basic
import Mathlib.Order.WellFounded

/-!
# Tables can be ordered unless they need each other in a circle

A table that is placed needs only tables that were placed before, so that no chain of needs goes on
forever from it.  Where tables are left over, each of them needs another one of those left over, and
among finitely many tables such a chain comes back to where it was.
-/

namespace FactModel

/-- Where every element of a list is related to one of the list, some element reaches itself. -/
theorem exists_circle {α : Type} {needs : α → α → Prop} {l : List α} (ne : l ≠ [])
    (onwards : ∀ a ∈ l, ∃ b ∈ l, needs a b) : ∃ a, Relation.TransGen needs a a := by
  classical
  by_contra none
  let below (b a : { a // a ∈ l }) : Prop := Relation.TransGen needs a.1 b.1
  have : Finite { a // a ∈ l } := List.finite_toSet l
  have : IsTrans _ below := ⟨fun _ _ _ first second => second.trans first⟩
  have : Std.Irrefl below := ⟨fun a circle => none ⟨a.1, circle⟩⟩
  obtain ⟨first, firstMem⟩ := List.exists_mem_of_ne_nil l ne
  obtain ⟨least, -, minimal⟩ :=
    (Finite.wellFounded_of_trans_of_irrefl below).has_min Set.univ ⟨⟨first, firstMem⟩, trivial⟩
  obtain ⟨next, nextMem, needed⟩ := onwards least.1 least.2
  exact minimal ⟨next, nextMem⟩ trivial (Relation.TransGen.single needed)

/-- Where every element of a list is related to one of the list, a chain from any of them comes to
one that reaches itself. -/
theorem exists_circle_from {α : Type} {needs : α → α → Prop} {l : List α} {a : α} (mem : a ∈ l)
    (onwards : ∀ a ∈ l, ∃ b ∈ l, needs a b) :
    ∃ b, Relation.ReflTransGen needs a b ∧ Relation.TransGen needs b b := by
  classical
  let reached (b c : α) : Prop := Relation.ReflTransGen needs a b ∧ needs b c
  have here : a ∈ l.filter fun b => Relation.ReflTransGen needs a b :=
    List.mem_filter.mpr ⟨mem, decide_eq_true .refl⟩
  obtain ⟨b, circle⟩ : ∃ b, Relation.TransGen reached b b := by
    refine exists_circle (List.ne_nil_of_mem here) fun b bMem => ?_
    obtain ⟨bMem, reaches⟩ := List.mem_filter.mp bMem
    obtain ⟨c, cMem, needed⟩ := onwards b bMem
    have reaches := of_decide_eq_true reaches
    exact ⟨c, List.mem_filter.mpr ⟨cMem, decide_eq_true (reaches.tail needed)⟩, reaches, needed⟩
  obtain ⟨_, ⟨reaches, -⟩, -⟩ := Relation.TransGen.head'_iff.mp circle
  exact ⟨b, reaches, circle.lift id fun _ _ => And.right⟩

theorem not_self_of_acc {α : Type} {below : α → α → Prop} {a : α} (founded : Acc below a) :
    ¬below a a := by
  induction founded with
  | intro a _ ih => exact fun circle => ih a circle circle

/-- Where no chain goes on forever from an element, none comes back to it. -/
theorem not_circle_of_acc {α : Type} {needs : α → α → Prop} {a : α}
    (founded : Acc (fun b a => needs a b) a) : ¬Relation.TransGen needs a a :=
  fun circle => not_self_of_acc founded.transGen (Relation.transGen_swap.mpr circle)

theorem acc_of_reflTransGen {α : Type} {needs : α → α → Prop} {a b : α}
    (founded : Acc (fun b a => needs a b) a) (reaches : Relation.ReflTransGen needs a b) :
    Acc (fun b a => needs a b) b := by
  induction reaches with
  | refl => exact founded
  | tail _ step ih => exact ih.inv step

namespace Schema

/-- Whether a table needs another one to exist before it. -/
def Needs (s : Schema) (t u : Table) : Prop :=
  t ∈ s.tables ∧ u ∈ s.tables ∧ u.name ∈ s.dependencies t

/-- A table needs the other tables of the schema that it has a foreign key to. -/
theorem needs_iff {s : Schema} {t u : Table} : s.Needs t u ↔
    t ∈ s.tables ∧ u ∈ s.tables ∧ u.name ≠ t.name ∧ ∃ k ∈ t.foreignKeys, k.refTable = u.name := by
  refine and_congr_right fun _ => and_congr_right fun uMem => ?_
  have listed : s.tables.any (·.name == u.name) = true :=
    List.any_eq_true.mpr ⟨u, uMem, beq_self_eq_true _⟩
  simp [dependencies, listed, and_comm]

theorem mem_of_first? {ts : List Table} {t : Table} (first : first? ts = some t) : t ∈ ts := by
  induction ts generalizing t with
  | nil => contradiction
  | cons u rest ih =>
    rw [first?] at first
    cases later : first? rest with
    | none =>
      simp only [later, Option.some.injEq] at first
      simp [first]
    | some v =>
      simp only [later] at first
      split at first
      · cases first
        exact List.mem_cons_of_mem _ (ih later)
      · cases first
        exact List.mem_cons_self

theorem eq_nil_of_first? {ts : List Table} (none : first? ts = none) : ts = [] := by
  cases ts with
  | nil => rfl
  | cons t rest =>
    rw [first?] at none
    cases later : first? rest with
    | none => simp [later] at none
    | some u =>
      simp only [later] at none
      split at none <;> contradiction

/-- What placing one table after another keeps holds of what is placed and what waits in the end,
when none of the tables that wait is ready. -/
theorem place_induction {s : Schema} {holds : List Table → List Table → Prop}
    (step : ∀ {placed waiting : List Table} {t : Table}, holds placed waiting →
      first? (waiting.filter (s.isReady placed)) = some t →
        holds (placed ++ [t]) (waiting.filter (·.name != t.name)))
    {placed waiting : List Table} (start : holds placed waiting) {bound : Nat}
    (enough : waiting.length ≤ bound) :
    holds (s.place bound placed waiting).1 (s.place bound placed waiting).2 ∧
      (s.place bound placed waiting).2.filter
        (s.isReady (s.place bound placed waiting).1) = [] := by
  induction bound generalizing placed waiting with
  | zero =>
    obtain rfl := List.eq_nil_of_length_eq_zero (Nat.le_zero.mp enough)
    exact ⟨start, rfl⟩
  | succ bound ih =>
    rw [place]
    cases first : first? (waiting.filter (s.isReady placed)) with
    | none => exact ⟨start, eq_nil_of_first? first⟩
    | some t =>
      have waits := List.mem_of_mem_filter (mem_of_first? first)
      have shorter : (waiting.filter (·.name != t.name)).length < waiting.length :=
        List.length_filter_lt_length_iff_exists.mpr ⟨t, waits, by simp⟩
      exact ih (step start first) (by omega)

/-- What holds while tables are placed.  Every table of the schema is placed or waits, and from a
placed one no chain of needs goes on forever. -/
structure Placing (s : Schema) (placed waiting : List Table) : Prop where
  known : ∀ t ∈ s.tables, t ∈ placed ∨ t ∈ waiting
  placedIn : placed ⊆ s.tables
  waitingIn : waiting ⊆ s.tables
  founded : ∀ t ∈ placed, Acc (fun u t => s.Needs t u) t

section Names

variable {s : Schema} (names : (s.tables.map (·.name)).Nodup)

include names

theorem eq_of_name {t u : Table} (tMem : t ∈ s.tables) (uMem : u ∈ s.tables)
    (same : t.name = u.name) : t = u :=
  List.inj_on_of_nodup_map names tMem uMem same

/-- Placing a table that is ready. -/
theorem Placing.add {placed waiting : List Table} (placing : Placing s placed waiting) {t : Table}
    (waits : t ∈ waiting) (ready : s.isReady placed t = true) :
    Placing s (placed ++ [t]) (waiting.filter (·.name != t.name)) where
  known := by
    intro u uMem
    rcases placing.known u uMem with there | waits'
    · exact .inl (List.mem_append_left _ there)
    · by_cases same : u.name = t.name
      · exact .inl (by simp [eq_of_name names uMem (placing.waitingIn waits) same])
      · exact .inr (List.mem_filter.mpr ⟨waits', by simpa using same⟩)
  placedIn := List.append_subset.mpr
    ⟨placing.placedIn, List.cons_subset.mpr ⟨placing.waitingIn waits, List.nil_subset _⟩⟩
  waitingIn := fun u mem => placing.waitingIn (List.mem_of_mem_filter mem)
  founded := by
    intro u uMem
    rcases List.mem_append.mp uMem with before | now
    · exact placing.founded u before
    · obtain rfl := List.mem_singleton.mp now
      refine ⟨_, fun v ⟨_, vMem, needed⟩ => ?_⟩
      obtain ⟨w, wMem, same⟩ := List.any_eq_true.mp (List.all_eq_true.mp ready v.name needed)
      rw [← eq_of_name names (placing.placedIn wMem) vMem (eq_of_beq same)]
      exact placing.founded w wMem

/-- Placing goes on until none of the tables that wait is ready. -/
theorem Placing.run {placed waiting : List Table} (placing : Placing s placed waiting) {bound : Nat}
    (enough : waiting.length ≤ bound) :
    Placing s (s.place bound placed waiting).1 (s.place bound placed waiting).2 ∧
      (s.place bound placed waiting).2.filter
        (s.isReady (s.place bound placed waiting).1) = [] := by
  refine place_induction (fun placing first => ?_) placing enough
  obtain ⟨waits, ready⟩ := List.mem_filter.mp (mem_of_first? first)
  exact placing.add names waits ready

omit names in
/-- A table that waits and is not ready needs another one that waits. -/
theorem Placing.exists_needed {placed waiting : List Table} (placing : Placing s placed waiting)
    {t : Table} (waits : t ∈ waiting) (notReady : s.isReady placed t = false) :
    ∃ u ∈ waiting, s.Needs t u := by
  obtain ⟨name, needed, missing⟩ := List.all_eq_false.mp notReady
  obtain ⟨u, uMem, named⟩ := List.any_eq_true.mp
    ((Bool.and_eq_true ..).mp (List.mem_filter.mp needed).2).2
  obtain rfl := eq_of_beq named
  refine ⟨u, (placing.known u uMem).resolve_left fun there => missing ?_,
    placing.waitingIn waits, uMem, needed⟩
  exact List.any_eq_true.mpr ⟨u, there, beq_self_eq_true _⟩

/-- Tables of different names can be ordered just when none of them needs itself in the end. -/
theorem creationOrder_isOk_iff : (∃ ordered, s.creationOrder = .ok ordered) ↔
    ¬∃ t, Relation.TransGen s.Needs t t := by
  have start : Placing s [] s.tables :=
    ⟨fun t mem => .inr mem, List.nil_subset _, List.Subset.refl _, by simp⟩
  obtain ⟨placing, noneReady⟩ := start.run names (Nat.le_refl s.tables.length)
  unfold creationOrder
  generalize s.place s.tables.length [] s.tables = final at placing noneReady ⊢
  obtain ⟨placed, waiting⟩ := final
  simp only at placing noneReady ⊢
  cases waiting with
  | nil =>
    refine ⟨fun _ ⟨t, circle⟩ => ?_, fun _ => ⟨placed, rfl⟩⟩
    have tMem : t ∈ s.tables := by
      obtain ⟨-, ⟨tMem, -⟩, -⟩ := Relation.TransGen.head'_iff.mp circle
      exact tMem
    have founded : Acc (fun u t => s.Needs t u) t :=
      placing.founded t ((placing.known t tMem).resolve_right (by simp))
    exact not_circle_of_acc founded circle
  | cons t rest =>
    refine ⟨fun ⟨ordered, ok⟩ => by simp at ok, fun none => absurd ?_ none⟩
    refine exists_circle (List.cons_ne_nil t rest) fun u waits => ?_
    have notReady := List.filter_eq_nil_iff.mp noneReady u waits
    exact placing.exists_needed waits (by simpa using notReady)

end Names

end Schema

end FactModel
