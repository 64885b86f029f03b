import FactModel.Graph.Path
import Mathlib.Data.List.Lex
import Mathlib.Data.List.Nodup
import Mathlib.Data.List.Perm.Subperm

/-!
# Searching from frontier to frontier

A search goes outwards from its source.  After `n` steps its frontier holds the nodes at distance
`n`, each with the first walk to it in lexicographic order, and the walks stand in that order.  One
more step keeps this: whatever is reached first from an ordered frontier is reached along the first
walk.
-/

namespace FactModel.Path

/-- The labels along edges that lead from a source to a node. -/
inductive Walk (edges : Nat → List (Nat × Nat)) (source : Nat) : List Nat → Nat → Prop where
  | nil : Walk edges source [] source
  | concat {path : List Nat} {node label target : Nat} (walk : Walk edges source path node)
      (edge : (label, target) ∈ edges node) : Walk edges source (path ++ [label]) target

/-- A walk of the fewest steps, and of all those the first in lexicographic order. -/
structure Canonical (edges : Nat → List (Nat × Nat)) (source : Nat) (path : List Nat)
    (node : Nat) : Prop where
  walk : Walk edges source path node
  shortest : ∀ other, Walk edges source other node → path.length ≤ other.length
  first : ∀ other, Walk edges source other node → other.length = path.length → path ≤ other

variable {edges : Nat → List (Nat × Nat)} {source : Nat}

/-- There is just one canonical walk to a node. -/
theorem Canonical.eq {p q : List Nat} {node : Nat} (isP : Canonical edges source p node)
    (isQ : Canonical edges source q node) : p = q := by
  have sameLength : p.length = q.length :=
    Nat.le_antisymm (isP.shortest q isQ.walk) (isQ.shortest p isP.walk)
  apply le_antisymm
  · exact isP.first q isQ.walk sameLength.symm
  · exact isQ.first p isP.walk sameLength

theorem walk_of_length_eq_zero {path : List Nat} {node : Nat} (walk : Walk edges source path node)
    (empty : path.length = 0) : path = [] ∧ node = source := by
  cases walk with
  | nil => exact ⟨rfl, rfl⟩
  | concat walk edge => simp at empty

theorem exists_of_length_eq_succ {path : List Nat} {target n : Nat}
    (walk : Walk edges source path target) (length : path.length = n + 1) :
    ∃ front node label, path = front ++ [label] ∧ Walk edges source front node ∧
      (label, target) ∈ edges node ∧ front.length = n := by
  cases walk with
  | nil => simp at length
  | @concat front node label _ walk edge =>
    rw [List.length_append, List.length_singleton] at length
    exact ⟨front, node, label, rfl, walk, edge, by omega⟩

/-- Of lists of one length, those behind the lesser one are lesser whatever is put behind both. -/
theorem append_lt_append {p q : List Nat} (sameLength : p.length = q.length) (lt : p < q)
    (a b : List Nat) : p ++ a < q ++ b := by
  induction p generalizing q with
  | nil =>
    rw [List.length_nil, eq_comm, List.length_eq_zero_iff] at sameLength
    subst sameLength
    exact absurd lt (lt_irrefl [])
  | cons x p ih =>
    cases q with
    | nil => simp at sameLength
    | cons y q =>
      rw [List.cons_append, List.cons_append, List.cons_lt_cons_iff]
      rcases List.cons_lt_cons_iff.mp lt with less | ⟨rfl, rest⟩
      · exact .inl less
      · exact .inr ⟨rfl, ih (Nat.succ.inj sameLength) rest⟩

theorem append_le_append {p q : List Nat} (sameLength : p.length = q.length) (le : p ≤ q)
    {a b : List Nat} (tails : a ≤ b) : p ++ a ≤ q ++ b := by
  rcases lt_or_eq_of_le le with lt | rfl
  · exact le_of_lt (append_lt_append sameLength lt a b)
  · rcases lt_or_eq_of_le tails with lt | rfl
    · exact le_of_lt (List.append_left_lt lt)
    · exact le_rfl

/-! ## One step outwards -/

/-- What lies one step beyond a frontier, seen before or not. -/
def beyond (edges : Nat → List (Nat × Nat)) (frontier : List Reached) : List Reached :=
  frontier.flatMap fun r => (edges r.1).map fun e => (e.2, r.2 ++ [e.1])

/-- Of all that is reached what has not been seen, each node when it is reached first. -/
def fresh : (seen : List Nat) → List Reached → List Reached
  | _, [] => []
  | seen, r :: rest => if r.1 ∈ seen then fresh seen rest else r :: fresh (r.1 :: seen) rest

theorem fresh_append (seen : List Nat) (rs more : List Reached) :
    fresh seen (rs ++ more) =
      fresh seen rs ++ fresh (((fresh seen rs).map (·.1)).reverse ++ seen) more := by
  induction rs generalizing seen with
  | nil => simp [fresh]
  | cons r rs ih =>
    rw [List.cons_append, fresh, fresh]
    split
    · exact ih seen
    · rw [ih (r.1 :: seen)]
      simp

/-- From one node of a frontier a search takes up what is fresh. -/
theorem follow_eq (path : List Nat) (es : List (Nat × Nat)) (found : List Reached)
    (seen : List Nat) :
    let taken := fresh seen (es.map fun e => (e.2, path ++ [e.1]))
    follow path es (found, seen) = (found ++ taken, (taken.map (·.1)).reverse ++ seen) := by
  induction es generalizing found seen with
  | nil => simp [follow, fresh]
  | cons e es ih =>
    rcases e with ⟨label, target⟩
    rw [follow, List.map_cons, fresh]
    split
    · exact ih found seen
    · rw [ih]
      simp

theorem foldl_follow_eq (frontier found : List Reached) (seen : List Nat) :
    let taken := fresh seen (beyond edges frontier)
    frontier.foldl (fun acc (r : Reached) => follow r.2 (edges r.1) acc) (found, seen) =
      (found ++ taken, (taken.map (·.1)).reverse ++ seen) := by
  induction frontier generalizing found seen with
  | nil => simp [beyond, fresh]
  | cons r frontier ih =>
    have split : beyond edges (r :: frontier) =
        (edges r.1).map (fun e => (e.2, r.2 ++ [e.1])) ++ beyond edges frontier := by
      simp [beyond]
    rw [List.foldl_cons, follow_eq, ih, split, fresh_append]
    simp

/-- A step takes up what is fresh of what lies beyond the frontier. -/
theorem step_eq (frontier : List Reached) (seen : List Nat) :
    step edges frontier seen =
      (fresh seen (beyond edges frontier),
        ((fresh seen (beyond edges frontier)).map (·.1)).reverse ++ seen) :=
  foldl_follow_eq frontier [] seen

theorem mem_step_iff {frontier : List Reached} {seen : List Nat} {node : Nat} :
    node ∈ (step edges frontier seen).2 ↔
      node ∈ (step edges frontier seen).1.map (·.1) ∨ node ∈ seen := by
  simp [step_eq]

theorem length_step (frontier : List Reached) (seen : List Nat) :
    (step edges frontier seen).2.length =
      (step edges frontier seen).1.length + seen.length := by
  simp [step_eq]

section Fresh

variable (seen : List Nat) (rs : List Reached)

theorem fresh_sublist : (fresh seen rs).Sublist rs := by
  induction rs generalizing seen with
  | nil => exact List.Sublist.slnil
  | cons r rest ih =>
    rw [fresh]
    split
    · exact (ih seen).cons r
    · exact (ih (r.1 :: seen)).cons_cons r

theorem not_mem_seen_of_mem_fresh : ∀ r ∈ fresh seen rs, r.1 ∉ seen := by
  induction rs generalizing seen with
  | nil => simp [fresh]
  | cons r rest ih =>
    intro s mem
    rw [fresh] at mem
    split at mem
    · exact ih seen s mem
    · next unknown =>
      rcases List.mem_cons.mp mem with rfl | later
      · exact unknown
      · intro known
        exact ih (r.1 :: seen) s later (List.mem_cons_of_mem r.1 known)

/-- No node is taken up twice. -/
theorem nodup_fresh : ((fresh seen rs).map (·.1)).Nodup := by
  induction rs generalizing seen with
  | nil => exact List.nodup_nil
  | cons r rest ih =>
    rw [fresh]
    split
    · exact ih seen
    · rw [List.map_cons, List.nodup_cons]
      constructor
      · intro again
        rcases List.mem_map.mp again with ⟨s, mem, same⟩
        apply not_mem_seen_of_mem_fresh (r.1 :: seen) rest s mem
        rw [same]
        exact List.mem_cons_self
      · exact ih (r.1 :: seen)

variable {seen rs}

/-- What is reached in lexicographic order is taken up where it is least. -/
theorem exists_le_of_mem {node : Nat} {path : List Nat} (mem : (node, path) ∈ rs)
    (unknown : node ∉ seen) (inOrder : rs.Pairwise fun r s => r.2 < s.2) :
    ∃ p, (node, p) ∈ fresh seen rs ∧ p ≤ path := by
  induction rs generalizing seen with
  | nil => contradiction
  | cons r rest ih =>
    rcases List.pairwise_cons.mp inOrder with ⟨below, restInOrder⟩
    rw [fresh]
    split
    · next known =>
      rcases List.mem_cons.mp mem with rfl | later
      · exact absurd known unknown
      · exact ih later unknown restInOrder
    · next new =>
      by_cases here : node = r.1
      · subst here
        refine ⟨r.2, List.mem_cons_self, ?_⟩
        rcases List.mem_cons.mp mem with same | later
        · exact le_of_eq (congrArg Prod.snd same).symm
        · exact le_of_lt (below _ later)
      · have later : (node, path) ∈ rest := by
          rcases List.mem_cons.mp mem with rfl | later
          · exact absurd rfl here
          · exact later
        have stillUnknown : node ∉ r.1 :: seen := by
          rw [List.mem_cons, not_or]
          exact ⟨here, unknown⟩
        rcases ih later stillUnknown restInOrder with ⟨p, taken, le⟩
        exact ⟨p, List.mem_cons_of_mem r taken, le⟩

end Fresh

/-! ## Layers -/

/-- What a search holds after `n` steps. -/
structure Layer (edges : Nat → List (Nat × Nat)) (source n : Nat) (frontier : List Reached)
    (seen : List Nat) : Prop where
  canonical : ∀ node path, (node, path) ∈ frontier →
    Canonical edges source path node ∧ path.length = n
  complete : ∀ path node, Walk edges source path node → path.length = n →
    (∃ shorter, Walk edges source shorter node ∧ shorter.length < n) ∨
      ∃ p, (node, p) ∈ frontier
  inOrder : frontier.Pairwise fun r s => r.2 < s.2
  seen_iff : ∀ node, node ∈ seen ↔ ∃ path, Walk edges source path node ∧ path.length ≤ n
  nodup : seen.Nodup

theorem layer_zero : Layer edges source 0 [(source, [])] [source] where
  canonical := by
    intro node path mem
    cases List.mem_singleton.mp mem
    refine ⟨⟨.nil, fun _ _ => Nat.zero_le _, ?_⟩, rfl⟩
    intro other _ empty
    rw [List.length_eq_zero_iff.mp empty]
  complete := by
    intro path node walk empty
    rcases walk_of_length_eq_zero walk empty with ⟨rfl, rfl⟩
    exact .inr ⟨[], List.mem_singleton_self _⟩
  inOrder := List.pairwise_singleton _ _
  seen_iff := by
    intro node
    rw [List.mem_singleton]
    constructor
    · rintro rfl
      exact ⟨[], .nil, Nat.le_refl 0⟩
    · rintro ⟨path, walk, empty⟩
      exact (walk_of_length_eq_zero walk (Nat.le_zero.mp empty)).2
  nodup := List.nodup_singleton source

namespace Layer

variable {n : Nat} {frontier : List Reached} {seen : List Nat}
  (layer : Layer edges source n frontier seen)

include layer

theorem of_mem_beyond {target : Nat} {path : List Nat}
    (mem : (target, path) ∈ beyond edges frontier) :
    Walk edges source path target ∧ path.length = n + 1 := by
  rcases List.mem_flatMap.mp mem with ⟨⟨node, front⟩, inFrontier, across⟩
  rcases List.mem_map.mp across with ⟨⟨label, _⟩, edge, same⟩
  cases same
  rcases layer.canonical node front inFrontier with ⟨canonical, length⟩
  constructor
  · exact .concat canonical.walk edge
  · rw [List.length_append, length, List.length_singleton]

/-- A node that is not seen yet lies beyond the frontier when there is a walk to it that is one step
longer, and it is reached along a walk that is not behind that one. -/
theorem exists_mem_beyond {target : Nat} {path : List Nat} (walk : Walk edges source path target)
    (length : path.length = n + 1) (unknown : target ∉ seen) :
    ∃ p, (target, p) ∈ beyond edges frontier ∧ p ≤ path := by
  rcases exists_of_length_eq_succ walk length with
    ⟨front, node, label, rfl, frontWalk, edge, frontLength⟩
  rcases layer.complete front node frontWalk frontLength with
    ⟨shorter, shorterWalk, less⟩ | ⟨p, inFrontier⟩
  · -- Along the shorter walk the target would have been seen.
    exfalso
    apply unknown
    rw [layer.seen_iff]
    refine ⟨shorter ++ [label], .concat shorterWalk edge, ?_⟩
    rw [List.length_append, List.length_singleton]
    exact less
  · rcases layer.canonical node p inFrontier with ⟨canonical, pLength⟩
    refine ⟨p ++ [label], ?_, ?_⟩
    · exact List.mem_flatMap.mpr ⟨(node, p), inFrontier, List.mem_map.mpr ⟨_, edge, rfl⟩⟩
    · apply append_le_append (pLength.trans frontLength.symm)
      · exact canonical.first front frontWalk (frontLength.trans pLength.symm)
      · exact le_rfl

/-- What lies beyond an ordered frontier is reached in order. -/
theorem inOrder_beyond (labelled : ∀ node, (edges node).Pairwise fun e f => e.1 < f.1) :
    (beyond edges frontier).Pairwise fun r s => r.2 < s.2 := by
  rw [beyond, List.pairwise_flatMap]
  constructor
  · intro r _
    rw [List.pairwise_map]
    apply (labelled r.1).imp
    intro e f less
    apply List.append_left_lt
    exact List.cons_lt_cons_iff.mpr (.inl less)
  · apply layer.inOrder.imp_of_mem
    intro r s rMem sMem less x xMem y yMem
    rcases List.mem_map.mp xMem with ⟨e, -, rfl⟩
    rcases List.mem_map.mp yMem with ⟨f, -, rfl⟩
    have rLength := (layer.canonical r.1 r.2 rMem).2
    have sLength := (layer.canonical s.1 s.2 sMem).2
    exact append_lt_append (rLength.trans sLength.symm) less _ _

/-- One more step leads from the nodes at one distance to those at the next. -/
theorem next (labelled : ∀ node, (edges node).Pairwise fun e f => e.1 < f.1) :
    Layer edges source (n + 1) (step edges frontier seen).1 (step edges frontier seen).2 := by
  have ordered := layer.inOrder_beyond labelled
  rw [step_eq]
  constructor
  · intro node path mem
    have unknown := not_mem_seen_of_mem_fresh seen _ _ mem
    rcases layer.of_mem_beyond ((fresh_sublist seen _).subset mem) with ⟨walk, length⟩
    refine ⟨⟨walk, ?_, ?_⟩, length⟩
    · intro other otherWalk
      by_contra shorter
      apply unknown
      rw [layer.seen_iff]
      exact ⟨other, otherWalk, by omega⟩
    · intro other otherWalk sameLength
      rcases layer.exists_mem_beyond otherWalk (sameLength.trans length) unknown with
        ⟨p, pMem, le⟩
      rcases exists_le_of_mem pMem unknown ordered with ⟨q, taken, qLe⟩
      have same : (node, q) = (node, path) :=
        List.inj_on_of_nodup_map (nodup_fresh seen _) taken mem rfl
      cases same
      exact le_trans qLe le
  · intro path node walk length
    by_cases known : node ∈ seen
    · rcases (layer.seen_iff node).mp known with ⟨shorter, shorterWalk, bound⟩
      exact .inl ⟨shorter, shorterWalk, Nat.lt_succ_of_le bound⟩
    · rcases layer.exists_mem_beyond walk length known with ⟨p, pMem, -⟩
      rcases exists_le_of_mem pMem known ordered with ⟨q, taken, -⟩
      exact .inr ⟨q, taken⟩
  · exact ordered.sublist (fresh_sublist seen _)
  · intro node
    rw [List.mem_append, List.mem_reverse, List.mem_map]
    constructor
    · rintro (⟨⟨_, path⟩, mem, rfl⟩ | known)
      · rcases layer.of_mem_beyond ((fresh_sublist seen _).subset mem) with ⟨walk, length⟩
        exact ⟨path, walk, Nat.le_of_eq length⟩
      · rcases (layer.seen_iff node).mp known with ⟨path, walk, bound⟩
        exact ⟨path, walk, Nat.le_succ_of_le bound⟩
    · rintro ⟨path, walk, bound⟩
      by_cases known : node ∈ seen
      · exact .inr known
      · have length : path.length = n + 1 := by
          by_contra differs
          apply known
          rw [layer.seen_iff]
          exact ⟨path, walk, by omega⟩
        rcases layer.exists_mem_beyond walk length known with ⟨p, pMem, -⟩
        rcases exists_le_of_mem pMem known ordered with ⟨q, taken, -⟩
        exact .inl ⟨(node, q), taken, rfl⟩
  · rw [List.nodup_append, List.nodup_reverse]
    refine ⟨nodup_fresh seen _, layer.nodup, ?_⟩
    intro a aMem b bMem same
    rw [List.mem_reverse, List.mem_map] at aMem
    rcases aMem with ⟨r, mem, rfl⟩
    exact not_mem_seen_of_mem_fresh seen _ r mem (same ▸ bMem)

/-- Behind an empty frontier nothing is left to be seen. -/
theorem mem_seen_of_nil (nothing : frontier = []) {path : List Nat} {node : Nat}
    (walk : Walk edges source path node) : node ∈ seen := by
  induction walk with
  | nil =>
    rw [layer.seen_iff]
    exact ⟨[], .nil, Nat.zero_le n⟩
  | @concat _ node label target _ edge ih =>
    rw [layer.seen_iff] at ih ⊢
    rcases ih with ⟨front, walk, bound⟩
    have shorter : ∃ shorter, Walk edges source shorter node ∧ shorter.length < n := by
      rcases Nat.lt_or_eq_of_le bound with less | length
      · exact ⟨front, walk, less⟩
      · rcases layer.complete front node walk length with shorter | ⟨p, inFrontier⟩
        · exact shorter
        · rw [nothing] at inFrontier
          contradiction
    rcases shorter with ⟨shorter, walk, less⟩
    refine ⟨shorter ++ [label], .concat walk edge, ?_⟩
    rw [List.length_append, List.length_singleton]
    exact less

end Layer

/-! ## The search -/

section Search

variable {goal bound n : Nat} {frontier : List Reached} {seen : List Nat}
  (labelled : ∀ node, (edges node).Pairwise fun e f => e.1 < f.1)
  (layer : Layer edges source n frontier seen)

include labelled layer

/-- Whatever a search finds is the canonical walk to its goal. -/
theorem canonical_of_widen {path : List Nat}
    (found : widen edges goal bound frontier seen = some path) :
    Canonical edges source path goal := by
  induction bound generalizing n frontier seen with
  | zero => contradiction
  | succ bound ih =>
    have next := layer.next labelled
    rw [widen] at found
    split at found
    next reached known stepped =>
    rw [stepped] at next
    split at found
    · next node p met =>
      cases found
      have isGoal : node = goal := eq_of_beq (List.find?_some met :)
      subst isGoal
      exact (next.canonical node path (List.mem_of_find?_eq_some met)).1
    · split at found
      · contradiction
      · exact ih next found

/-- A search that finds nothing shows that there is nothing to be found.  Its bound suffices, since
each step but the last one brings a node that was not seen before. -/
theorem not_walk_of_widen {count : Nat} (inside : ∀ node ∈ seen, node < count)
    (bounded : ∀ node, ∀ e ∈ edges node, e.2 < count) (room : count ≤ bound + n)
    (grown : n < seen.length) (away : goal ∉ seen)
    (nothing : widen edges goal bound frontier seen = none) (path : List Nat) :
    ¬Walk edges source path goal := by
  induction bound generalizing n frontier seen with
  | zero =>
    have inRange : seen ⊆ List.range count := fun node mem => List.mem_range.mpr (inside node mem)
    have few : seen.length ≤ count := by
      simpa using (layer.nodup.subperm inRange).length_le
    omega
  | succ bound ih =>
    have next := layer.next labelled
    have reachedOnly : goal ∈ (step edges frontier seen).2 →
        goal ∈ (step edges frontier seen).1.map (·.1) := fun mem =>
      (mem_step_iff.mp mem).resolve_right away
    have size : (step edges frontier seen).2.length =
        (step edges frontier seen).1.length + seen.length := length_step frontier seen
    have insideNext : ∀ node ∈ (step edges frontier seen).2, node < count := by
      intro node mem
      rcases (next.seen_iff node).mp mem with ⟨p, walk, -⟩
      cases walk with
      | nil => exact inside source ((layer.seen_iff source).mpr ⟨[], .nil, Nat.zero_le n⟩)
      | concat _ edge => exact bounded _ _ edge
    rw [widen] at nothing
    split at nothing
    next reached known stepped =>
    simp only [stepped] at next reachedOnly size insideNext
    split at nothing
    · contradiction
    · next missed =>
      have awayNext : goal ∉ known := by
        intro mem
        rcases List.mem_map.mp (reachedOnly mem) with ⟨r, rMem, isGoal⟩
        exact List.find?_eq_none.mp missed r rMem (by simpa using isGoal)
      split at nothing
      · next empty =>
        intro walk
        exact awayNext (next.mem_seen_of_nil (List.isEmpty_iff.mp empty) walk)
      · next more =>
        have grownNext : n + 1 < known.length := by
          have positive : 0 < reached.length :=
            List.length_pos_iff.mpr fun empty => more (by rw [empty]; rfl)
          omega
        exact ih next insideNext (by omega) grownNext awayNext nothing

end Search

section Shortest

variable {count goal : Nat} (labelled : ∀ node, (edges node).Pairwise fun e f => e.1 < f.1)
  (bounded : ∀ node, ∀ e ∈ edges node, e.2 < count) (inside : source < count)

include labelled bounded inside

theorem shortest?_eq_none_iff :
    shortest? count edges source goal = none ↔ ∀ path, ¬Walk edges source path goal := by
  rw [shortest?]
  by_cases same : source = goal
  · subst same
    simp only [if_pos, reduceCtorEq, false_iff, not_forall, not_not]
    exact ⟨[], .nil⟩
  · rw [if_neg same]
    constructor
    · intro nothing
      have away : goal ∉ [source] := by simpa using Ne.symm same
      exact not_walk_of_widen labelled layer_zero (by simpa using inside) bounded
        (Nat.le_refl count) Nat.zero_lt_one away nothing
    · intro none
      rw [Option.eq_none_iff_forall_ne_some]
      intro path found
      exact none path (canonical_of_widen labelled layer_zero found).walk

/-- What the search answers is the canonical walk, and it answers whenever there is a walk. -/
theorem shortest?_eq_some_iff {path : List Nat} :
    shortest? count edges source goal = some path ↔ Canonical edges source path goal := by
  have found_canonical {p : List Nat} (found : shortest? count edges source goal = some p) :
      Canonical edges source p goal := by
    rw [shortest?] at found
    split at found
    · next same =>
      cases found
      subst same
      exact (layer_zero.canonical source [] (List.mem_singleton_self _)).1
    · exact canonical_of_widen labelled layer_zero found
  constructor
  · exact found_canonical
  · intro canonical
    cases found : shortest? count edges source goal with
    | none =>
      exact absurd canonical.walk ((shortest?_eq_none_iff labelled bounded inside).mp found path)
    | some p => rw [(found_canonical found).eq canonical]

end Shortest

end FactModel.Path
