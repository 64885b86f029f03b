import FactModel.Graph.Derivation
import FactModel.Proofs.Steps
import Mathlib.Data.List.Chain
import Mathlib.Data.List.Nodup
import Mathlib.Data.List.Perm.Subperm
import Mathlib.Logic.Relation

/-!
# The search for a cycle

The search clears a node once all that it leads to is cleared.  When it ends without a cycle, the
cleared nodes are therefore all nodes, and each of them stands in front of those that it leads to.
Its place in that list ranks a node above all that it leads to, which is the form in which acyclicity
is used by whatever recurses along the edges.

The path to a node is always a chain of edges between different nodes.  A search that meets a node
of its path again therefore holds a cycle in hand, and where it meets none there is none to be met,
since every node outranks what it leads to.
-/

namespace FactModel.Cycle

variable {next : Nat → List Nat}

/-- The nodes of a list are distinct, and each leads to nodes behind it only. -/
def Cleared (next : Nat → List Nat) : List Nat → Prop
  | [] => True
  | node :: rest => node ∉ rest ∧ (∀ child ∈ next node, child ∈ rest) ∧ Cleared next rest

theorem Cleared.nodup {cleared : List Nat} (isCleared : Cleared next cleared) : cleared.Nodup := by
  induction cleared with
  | nil => exact List.nodup_nil
  | cons node rest ih => exact List.nodup_cons.mpr ⟨isCleared.1, ih isCleared.2.2⟩

/-- Cleared nodes lead to cleared nodes. -/
theorem Cleared.mem_next {cleared : List Nat} (isCleared : Cleared next cleared) {node : Nat}
    (mem : node ∈ cleared) : ∀ child ∈ next node, child ∈ cleared := by
  induction cleared with
  | nil => contradiction
  | cons other rest ih =>
    intro child isNext
    rcases List.mem_cons.mp mem with rfl | later
    · exact List.mem_cons_of_mem _ (isCleared.2.1 child isNext)
    · exact List.mem_cons_of_mem _ (ih isCleared.2.2 later child isNext)

/-- The number of nodes behind the first occurrence of a node. -/
def behind (node : Nat) : List Nat → Nat
  | [] => 0
  | other :: rest => if other = node then rest.length else behind node rest

theorem behind_lt_length {node : Nat} {cleared : List Nat} (mem : node ∈ cleared) :
    behind node cleared < cleared.length := by
  induction cleared with
  | nil => contradiction
  | cons other rest ih =>
    rw [behind]
    split
    · exact Nat.lt_succ_self _
    · next differs =>
      have inRest := (List.mem_cons.mp mem).resolve_left (Ne.symm differs)
      exact Nat.lt_succ_of_lt (ih inRest)

/-- What a cleared node leads to stands behind it. -/
theorem Cleared.behind_lt {cleared : List Nat} (isCleared : Cleared next cleared) {node : Nat}
    (mem : node ∈ cleared) : ∀ child ∈ next node, behind child cleared < behind node cleared := by
  induction cleared with
  | nil => contradiction
  | cons other rest ih =>
    obtain ⟨notThere, leads, restCleared⟩ := isCleared
    have inRest (child : Nat) (childMem : child ∈ rest) :
        behind child (other :: rest) = behind child rest := by
      rw [behind, if_neg]
      rintro rfl
      exact notThere childMem
    intro child isNext
    by_cases first : other = node
    · subst first
      rw [inRest child (leads child isNext), behind, if_pos rfl]
      exact behind_lt_length (leads child isNext)
    · have nodeMem := (List.mem_cons.mp mem).resolve_left (Ne.symm first)
      rw [inRest node nodeMem, inRest child (restCleared.mem_next nodeMem child isNext)]
      exact ih restCleared nodeMem child isNext

/-! ## The search -/

/-- What a search for cycles keeps of the nodes cleared so far: they are cleared, none of them is
on the path, and all are nodes of the graph. -/
structure Searching (next : Nat → List Nat) (count : Nat) (path cleared : List Nat) : Prop where
  isCleared : Cleared next cleared
  offPath : ∀ node ∈ path, node ∉ cleared
  inGraph : ∀ node ∈ cleared, node < count

/-- A loop that collects each of its items, and keeps what it collected and an invariant, collects
all of them. -/
theorem foldlM_collects {ε : Type} {step : List Nat → Nat → Except ε (List Nat)}
    {P : List Nat → Prop} {items : List Nat}
    (collects : ∀ acc, P acc → ∀ item ∈ items, ∀ result, step acc item = .ok result →
      P result ∧ item ∈ result ∧ ∀ v ∈ acc, v ∈ result)
    {start result : List Nat} (holds : P start)
    (folded : items.foldlM step start = .ok result) :
    P result ∧ (∀ item ∈ items, item ∈ result) ∧ ∀ v ∈ start, v ∈ result := by
  induction items generalizing start with
  | nil =>
    cases folded
    exact ⟨holds, by simp, fun v mem => mem⟩
  | cons item rest ih =>
    rw [List.foldlM_cons] at folded
    cases stepped : step start item with
    | error e => simp [stepped, bind, Except.bind] at folded
    | ok next =>
      simp only [stepped, bind, Except.bind] at folded
      obtain ⟨nextHolds, itemIn, kept⟩ := collects start holds item (by simp) next stepped
      obtain ⟨resultHolds, restIn, keptLater⟩ := ih
        (fun acc accHolds other mem => collects acc accHolds other (List.mem_cons_of_mem _ mem))
        nextHolds folded
      refine ⟨resultHolds, ?_, fun v mem => keptLater v (kept v mem)⟩
      intro other mem
      rcases List.mem_cons.mp mem with rfl | later
      · exact keptLater other itemIn
      · exact restIn other later

section Search

variable {count : Nat} (bounded : ∀ node < count, ∀ child ∈ next node, child < count)

include bounded

/-- A visit that finds no cycle clears its node and forgets none.  The bound suffices because the
path is shorter than the graph has nodes, all of its nodes being different. -/
theorem visit_eq_ok {bound : Nat} {path cleared : List Nat} {node : Nat}
    (path_nodup : (path ++ [node]).Nodup) (path_lt : ∀ v ∈ path ++ [node], v < count)
    (room : count ≤ bound + path.length) (searching : Searching next count (path ++ [node]) cleared)
    {result : List Nat} (visited : visit next bound path cleared node = .ok result) :
    Searching next count path result ∧ node ∈ result ∧ ∀ v ∈ cleared, v ∈ result := by
  induction bound generalizing path cleared node result with
  | zero =>
    have few : (path ++ [node]).length ≤ count := by
      have inRange : (path ++ [node]) ⊆ List.range count := fun v mem =>
        List.mem_range.mpr (path_lt v mem)
      simpa using (path_nodup.subperm inRange).length_le
    rw [List.length_append, List.length_singleton] at few
    omega
  | succ bound ih =>
    have nodeIn : node < count := path_lt node (by simp)
    rw [visit] at visited
    obtain ⟨found, folded, rfl⟩ := of_map_eq_ok visited
    obtain ⟨foundSearching, childrenIn, kept⟩ :=
      foldlM_collects (P := Searching next count (path ++ [node])) (by
        intro acc accSearching child isNext result stepped
        split at stepped
        · contradiction
        · next offPath =>
          split at stepped
          · next known =>
            cases stepped
            exact ⟨accSearching, known, fun v mem => mem⟩
          · next unknown =>
            have childIn := bounded node nodeIn child isNext
            refine ih ?_ ?_ ?_ { accSearching with offPath := ?_ } stepped
            · exact List.nodup_append.mpr ⟨path_nodup, List.nodup_singleton _, by
                intro v vMem w wMem same
                rw [List.mem_singleton.mp wMem] at same
                exact offPath (same ▸ vMem)⟩
            · intro v mem
              rcases List.mem_append.mp mem with old | new
              · exact path_lt v old
              · exact List.mem_singleton.mp new ▸ childIn
            · rw [List.length_append, List.length_singleton]
              omega
            · intro v mem
              rcases List.mem_append.mp mem with old | new
              · exact accSearching.offPath v old
              · exact List.mem_singleton.mp new ▸ unknown) searching folded
    have nodeOff := foundSearching.offPath node (by simp)
    refine ⟨⟨⟨nodeOff, childrenIn, foundSearching.isCleared⟩, ?_, ?_⟩, by simp, fun v mem =>
      List.mem_cons_of_mem _ (kept v mem)⟩
    · intro v mem
      rw [List.mem_cons, not_or]
      refine ⟨?_, foundSearching.offPath v (List.mem_append_left _ mem)⟩
      rintro rfl
      exact (List.nodup_append.mp path_nodup).2.2 v mem v (by simp) rfl
    · intro v mem
      rcases List.mem_cons.mp mem with rfl | later
      · exact nodeIn
      · exact foundSearching.inGraph v later

/-- When no cycle is found, nodes can be ranked so that every node outranks all it leads to. -/
theorem exists_rank_of_first?_eq_none (acyclic : first? count next = none) :
    ∃ rank : Nat → Nat, ∀ node < count,
      rank node < count ∧ ∀ child ∈ next node, rank child < rank node := by
  simp only [first?] at acyclic
  split at acyclic
  · contradiction
  · next cleared folded =>
    obtain ⟨searching, nodesIn, -⟩ :=
      foldlM_collects (P := Searching next count []) (by
        intro acc accSearching node mem result stepped
        split at stepped
        · next known =>
          cases stepped
          exact ⟨accSearching, known, fun v mem => mem⟩
        · next unknown =>
          exact visit_eq_ok bounded (by simp) (by simpa using mem) (by simp)
            { accSearching with offPath := by simpa using unknown } stepped)
        (⟨trivial, by simp, by simp⟩ : Searching next count [] []) folded
    have few : cleared.length ≤ count := by
      have inRange : cleared ⊆ List.range count := fun v mem =>
        List.mem_range.mpr (searching.inGraph v mem)
      simpa using (searching.isCleared.nodup.subperm inRange).length_le
    refine ⟨fun node => behind node cleared, fun node nodeIn => ?_⟩
    have mem := nodesIn node (List.mem_range.mpr nodeIn)
    exact ⟨Nat.lt_of_lt_of_le (behind_lt_length mem) few, searching.isCleared.behind_lt mem⟩

end Search

/-! ## Cycles -/

/-- A walk along edges that comes back to where it started, and to no other node twice. -/
structure Closed (edge : Nat → Nat → Prop) (walk : List Nat) : Prop where
  long : 2 ≤ walk.length
  closes : walk.head? = walk.getLast?
  once : walk.dropLast.Nodup
  along : walk.IsChain edge

/-- The first node of a closed walk leads back to itself. -/
theorem Closed.circle {edge : Nat → Nat → Prop} {walk : List Nat} (closed : Closed edge walk) :
    ∃ node, Relation.TransGen edge node node := by
  obtain ⟨long, closes, -, along⟩ := closed
  match walk, long with
  | node :: next :: rest, _ =>
    obtain ⟨first, onwards⟩ := List.isChain_cons_cons.mp along
    have back : Relation.ReflTransGen edge next node := by
      refine List.relationReflTransGen_of_exists_isChain_cons rest onwards (Option.some.inj ?_)
      rw [← List.getLast?_eq_some_getLast, ← List.getLast?_cons_cons (a := node)]
      exact closes.symm
    exact ⟨node, .head' first back⟩

/-- A loop that fails does so at one of its items. -/
theorem exists_of_foldlM_eq_error {ε α β : Type} {step : α → β → Except ε α} {items : List β}
    {start : α} {e : ε} (failed : items.foldlM step start = .error e) :
    ∃ acc, ∃ item ∈ items, step acc item = .error e := by
  induction items generalizing start with
  | nil => cases failed
  | cons item rest ih =>
    rw [List.foldlM_cons] at failed
    cases stepped : step start item with
    | error e' =>
      simp only [stepped, bind, Except.bind, Except.error.injEq] at failed
      exact ⟨start, item, List.mem_cons_self, failed ▸ stepped⟩
    | ok acc =>
      simp only [stepped, bind, Except.bind] at failed
      obtain ⟨acc, other, mem, failed⟩ := ih failed
      exact ⟨acc, other, List.mem_cons_of_mem item mem, failed⟩

theorem isChain_concat {edge : Nat → Nat → Prop} {walk : List Nat} {last node : Nat}
    (chain : walk.IsChain edge) (ends : walk.getLast? = some last) (leads : edge last node) :
    (walk ++ [node]).IsChain edge := by
  refine List.isChain_append.mpr ⟨chain, List.isChain_singleton node, ?_⟩
  simp [ends, leads]

/-- An edge from the end of a path to one of its nodes closes the path from there on. -/
theorem closed_of_mem {edge : Nat → Nat → Prop} {path : List Nat} {node child : Nat}
    (nodup : (path ++ [node]).Nodup) (chain : (path ++ [node]).IsChain edge)
    (leads : edge node child) (met : child ∈ path ++ [node]) :
    Closed edge ((path ++ [node]).dropWhile (· ≠ child) ++ [child]) := by
  obtain ⟨front, rest, split⟩ := List.append_of_mem met
  have behind : (path ++ [node]).dropWhile (· ≠ child) = child :: rest := by
    have apart : ∀ v ∈ front, decide (v ≠ child) = true := by
      rw [split] at nodup
      intro v mem
      exact decide_eq_true ((List.nodup_append.mp nodup).2.2 v mem child List.mem_cons_self)
    rw [split, List.dropWhile_append_of_pos apart, List.dropWhile_cons_of_neg (by simp)]
  have last : (child :: rest).getLast? = some node := by
    have whole : (front ++ child :: rest).getLast? = some node := by simp [← split]
    rwa [List.getLast?_append_of_ne_nil _ (List.cons_ne_nil child rest)] at whole
  rw [behind]
  refine ⟨by simp, by rw [List.getLast?_concat]; rfl, ?_, ?_⟩
  · rw [List.dropLast_concat]
    exact (List.nodup_append.mp (split ▸ nodup)).2.1
  · exact isChain_concat (List.isChain_append.mp (split ▸ chain)).2.1 last leads

/-- What a visit finds is a closed walk. -/
theorem closed_of_visit {bound : Nat} {path cleared : List Nat} {node : Nat}
    (nodup : (path ++ [node]).Nodup) (chain : (path ++ [node]).IsChain fun v w => w ∈ next v)
    {cycle : List Nat} (found : visit next bound path cleared node = .error cycle) :
    Closed (fun v w => w ∈ next v) cycle := by
  induction bound generalizing path cleared node with
  | zero => cases found
  | succ bound ih =>
    rw [visit] at found
    obtain ⟨acc, child, isNext, found⟩ :=
      exists_of_foldlM_eq_error (of_map_eq_error found)
    split at found
    · next met =>
      cases found
      exact closed_of_mem nodup chain isNext met
    · next apart =>
      split at found
      · cases found
      · refine ih ?_ ?_ found
        · exact List.concat_eq_append ▸ List.Nodup.concat apart nodup
        · exact isChain_concat chain List.getLast?_concat isNext

/-- The cycle that a search finds is a closed walk. -/
theorem closed_of_first? {count : Nat} {cycle : List Nat} (found : first? count next = some cycle) :
    Closed (fun v w => w ∈ next v) cycle := by
  simp only [first?] at found
  split at found
  · next failed =>
    obtain rfl := Option.some.inj found
    obtain ⟨acc, node, -, failed⟩ := exists_of_foldlM_eq_error failed
    split at failed
    · cases failed
    · exact closed_of_visit (by simp) (by simp) failed
  · cases found

/-- A search finds a cycle unless there is none. -/
theorem first?_eq_none_iff {count : Nat}
    (inside : ∀ node, ∀ child ∈ next node, node < count ∧ child < count) :
    first? count next = none ↔ ¬∃ node, Relation.TransGen (fun v w => w ∈ next v) node node := by
  constructor
  · rintro nothing ⟨node, circle⟩
    have bounded : ∀ node < count, ∀ child ∈ next node, child < count :=
      fun node _ child isNext => (inside node child isNext).2
    obtain ⟨rank, ranked⟩ := exists_rank_of_first?_eq_none bounded nothing
    have lower {v w : Nat} (walk : Relation.TransGen (fun v w => w ∈ next v) v w) :
        rank w < rank v := by
      induction walk with
      | single isNext => exact (ranked _ (inside _ _ isNext).1).2 _ isNext
      | tail _ isNext ih => exact ((ranked _ (inside _ _ isNext).1).2 _ isNext).trans ih
    exact Nat.lt_irrefl _ (lower circle)
  · intro none
    cases found : first? count next with
    | none => rfl
    | some cycle => exact absurd (closed_of_first? found).circle none

end FactModel.Cycle
