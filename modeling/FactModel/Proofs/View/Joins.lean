import FactModel.Proofs.Graph.Arena
import FactModel.Proofs.Schema.Keys
import FactModel.Proofs.Schema.TableNames
import FactModel.Proofs.View.Rows
import FactModel.View.Layout
import Mathlib.Data.Char
import Mathlib.Data.List.Lex
import Mathlib.Data.Prod.Lex

/-!
# The joins of a view

The paths that a view joins along are ordered by length first, so that what is left of a path without
its last step has been joined before the path itself.  Joins are linked: each starts at a table joined
before it and goes to the primary key of another one, under an alias of its own.  Linked joins extend
every row of the base table in just one way, and what they join under the alias of a path is the row
that is reached along that path.
-/

namespace FactModel.View

/-! ## Paths -/

/-- What the order of paths compares, one after the other. -/
def orderKey (g : Graph) (path : List Nat) : Nat ×ₗ (List (List Char) ×ₗ List Nat) :=
  toLex (path.length, toLex (pathNames g path, path))

theorem pathBefore_iff (g : Graph) (p q : List Nat) :
    pathBefore g p q = true ↔ orderKey g p < orderKey g q := by
  simp only [pathBefore, orderKey, Prod.Lex.toLex_lt_toLex, Bool.or_eq_true, Bool.and_eq_true,
    decide_eq_true_eq, beq_iff_eq]

theorem not_pathBefore_iff (g : Graph) (p q : List Nat) :
    (!pathBefore g q p) = true ↔ orderKey g p ≤ orderKey g q := by
  rw [Bool.not_eq_true', ← Bool.not_eq_true, pathBefore_iff, not_lt]

theorem mem_beginnings {path p : List Nat} : p ∈ beginnings path ↔ p ≠ [] ∧ p <+: path := by
  rw [beginnings, List.mem_map]
  constructor
  · rintro ⟨n, nMem, rfl⟩
    rw [List.mem_range] at nMem
    refine ⟨?_, List.take_prefix ..⟩
    rw [ne_eq, List.take_eq_nil_iff]
    rintro (none | rfl)
    · omega
    · simp at nMem
  · rintro ⟨nonempty, isStart⟩
    have positive := List.length_pos_iff.mpr nonempty
    have bound := isStart.length_le
    refine ⟨p.length - 1, List.mem_range.mpr (by omega), ?_⟩
    rw [Nat.sub_add_cancel positive]
    exact (List.prefix_iff_eq_take.mp isStart).symm

/-! ## The paths in order -/

section JoinPaths

variable (g : Graph) (derived : List DerivedAttribute)

theorem mem_joinPaths {p : List Nat} :
    p ∈ joinPaths g derived ↔ p ≠ [] ∧ ∃ d ∈ derived, p <+: d.path := by
  rw [joinPaths, List.mem_mergeSort, List.mem_eraseDups, List.mem_flatMap]
  simp only [mem_beginnings]
  tauto

/-- The paths stand in their order, each of them once. -/
theorem pairwise_orderKey_joinPaths :
    (joinPaths g derived).Pairwise fun p q => orderKey g p < orderKey g q := by
  have sorted : (joinPaths g derived).Pairwise fun p q => (!pathBefore g q p) = true := by
    refine List.pairwise_mergeSort ?_ ?_ _
    · intro p q r first second
      rw [not_pathBefore_iff] at first second ⊢
      exact le_trans first second
    · intro p q
      rw [Bool.or_eq_true, not_pathBefore_iff, not_pathBefore_iff]
      exact le_total _ _
  have nodup : (joinPaths g derived).Nodup :=
    (List.mergeSort_perm ..).nodup_iff.mpr (Arena.nodup_eraseDups _)
  refine (sorted.and nodup).imp fun {p q} ⟨notAfter, differ⟩ => ?_
  rw [not_pathBefore_iff] at notAfter
  refine lt_of_le_of_ne notAfter fun same => differ ?_
  exact congrArg (fun k => (ofLex (ofLex k).2).2) same

/-- No path stands before a shorter one. -/
theorem pairwise_joinPaths : (joinPaths g derived).Pairwise fun p q => p.length ≤ q.length := by
  refine (pairwise_orderKey_joinPaths g derived).imp fun {p q} lt => ?_
  rw [orderKey, orderKey, Prod.Lex.toLex_lt_toLex] at lt
  omega

/-- What is left of a path without its last step has been joined before. -/
theorem dropLast_mem_of_split {before after : List (List Nat)} {p : List Nat}
    (split : joinPaths g derived = before ++ p :: after) :
    p ≠ [] ∧ (p.dropLast = [] ∨ p.dropLast ∈ before) := by
  have mem : p ∈ joinPaths g derived := by simp [split]
  obtain ⟨nonempty, d, dMem, isStart⟩ := (mem_joinPaths g derived).mp mem
  have sorted := pairwise_joinPaths g derived
  rw [split] at sorted
  refine ⟨nonempty, ?_⟩
  by_cases single : p.dropLast = []
  · exact .inl single
  · right
    have restMem : p.dropLast ∈ joinPaths g derived :=
      (mem_joinPaths g derived).mpr ⟨single, d, dMem, (List.dropLast_prefix p).trans isStart⟩
    have shorter : p.dropLast.length < p.length := by
      rw [List.length_dropLast]
      have := List.length_pos_iff.mpr nonempty
      omega
    rw [split] at restMem
    rcases List.mem_append.mp restMem with here | later
    · exact here
    · have notShorter : p.length ≤ p.dropLast.length := by
        rcases List.mem_cons.mp later with same | later
        · exact le_of_eq (congrArg List.length same).symm
        · exact List.rel_of_pairwise_cons (List.pairwise_append.mp sorted).2.1 later
      omega

end JoinPaths

/-! ## Linked joins -/

/-- The alias at the end of a path, among given joins. -/
def aliasIn (joins : List Join) (path : List Nat) : Option String :=
  Joins.tableAlias? { joins, skipped := [] } path

/-- A join that follows given ones: along a relationship to one, by the key that backs it, from the
table at the end of the rest of its path. -/
structure Follows (g : Graph) (s : Schema) (before : List Join) (j : Join) : Prop where
  along : ∃ r ∈ g.relationships, r.derivable = true ∧ j.path = j.path.dropLast ++ [r.index] ∧
    ∃ k, s.keyFor? r.index = some k ∧ j.table = k.refTable ∧ j.column = k.column ∧
      j.refColumn = k.refColumn
  parent : aliasIn before j.path.dropLast = some j.parent
  base : j.tableAlias ≠ baseAlias
  fresh : ∀ i ∈ before, i.tableAlias ≠ j.tableAlias

/-- Joins each of which follows those before it. -/
inductive Linked (g : Graph) (s : Schema) : List Join → Prop where
  | nil : Linked g s []
  | concat {before : List Join} {j : Join} (linked : Linked g s before)
      (follows : Follows g s before j) : Linked g s (before ++ [j])

theorem aliasIn_nil (joins : List Join) : aliasIn joins [] = some baseAlias :=
  rfl

/-- An alias is the base alias, or that of the join along the path. -/
theorem aliasIn_concat {before : List Join} {j : Join} {path : List Nat} {tableAlias : String}
    (found : aliasIn (before ++ [j]) path = some tableAlias) :
    aliasIn before path = some tableAlias ∨ path = j.path ∧ tableAlias = j.tableAlias := by
  unfold aliasIn Joins.tableAlias? at found ⊢
  split at found
  · next none => exact .inl (by rw [if_pos none, found])
  · next nonempty =>
    rw [if_neg nonempty]
    simp only [List.find?_append, Option.map_eq_some_iff] at found ⊢
    obtain ⟨i, isFound, rfl⟩ := found
    rcases Option.or_eq_some_iff.mp isFound with here | ⟨-, there⟩
    · exact .inl ⟨i, here, rfl⟩
    · have same := List.mem_singleton.mp (List.mem_of_find?_eq_some there)
      subst same
      exact .inr ⟨(eq_of_beq (List.find?_some there :)).symm, rfl⟩

/-- An alias found among joins is that of the one along the path, or the base alias. -/
theorem of_aliasIn {joins : List Join} {path : List Nat} {tableAlias : String}
    (found : aliasIn joins path = some tableAlias) :
    (path = [] ∧ tableAlias = baseAlias) ∨
      ∃ j ∈ joins, j.path = path ∧ j.tableAlias = tableAlias := by
  unfold aliasIn Joins.tableAlias? at found
  split at found
  · next none => exact .inl ⟨none, (Option.some.inj found).symm⟩
  · obtain ⟨j, isFound, rfl⟩ := Option.map_eq_some_iff.mp found
    exact .inr ⟨j, List.mem_of_find?_eq_some isFound, eq_of_beq (List.find?_some isFound :), rfl⟩

theorem aliasIn_isSome_iff {joins : List Join} {path : List Nat} :
    (aliasIn joins path).isSome = true ↔ path = [] ∨ path ∈ joins.map (·.path) := by
  unfold aliasIn Joins.tableAlias?
  split
  · next none => simp [none]
  · next nonempty =>
    rw [or_iff_right nonempty, Option.isSome_map, List.find?_isSome, List.mem_map]
    simp only [beq_iff_eq]

/-- Each of linked joins follows those before it. -/
theorem Linked.follows {g : Graph} {s : Schema} {joins before after : List Join} {j : Join}
    (linked : Linked g s joins) (split : joins = before ++ j :: after) : Follows g s before j := by
  induction linked generalizing after with
  | nil => simp at split
  | concat _ follows ih =>
    rcases List.eq_nil_or_concat after with rfl | ⟨rest, last, rfl⟩
    · rcases List.append_inj' split rfl with ⟨rfl, same⟩
      rw [List.singleton_inj] at same
      exact same ▸ follows
    · rw [List.concat_eq_append, ← List.cons_append, ← List.append_assoc] at split
      exact ih (List.append_inj' split rfl).1

/-! ## What linked joins come to -/

section Meaning

variable {doc : Document} {g : Graph} (compiled : Compiled doc g) {V : Type} [DecidableEq V]
  {db : Contents V} (keyed : (Schema.ofGraph g).Keyed db)

include compiled keyed

/-- A join that follows others joins the row that is referred to. -/
theorem Follows.leftJoin_eq {before : List Join} {j : Join}
    (follows : Follows g (Schema.ofGraph g) before j) (rows : Combined V) :
    ∃ i, j.path = j.path.dropLast ++ [i] ∧ j.leftJoin db rows =
      [Function.update rows j.tableAlias
        (g.referenced (Schema.ofGraph g) db i (rows j.parent))] := by
  obtain ⟨r, mem, derivable, path, k, keyFor, table, column, refColumn⟩ := follows.along
  obtain ⟨k', -, keyFor', -, -, -, refTable, refColumn'⟩ :=
    Mapping.keyFor?_eq_some compiled mem derivable
  obtain rfl := Option.some.inj (keyFor.symm.trans keyFor')
  obtain ⟨t, tMem, tableOf, sound, -⟩ := Mapping.tableOf_eq_ok compiled (compiled.ends_lt mem).2
  refine ⟨r.index, path, ?_⟩
  rw [Join.leftJoin_eq sound.primary (table.trans (refTable.trans sound.named.symm))
    (refColumn.trans refColumn') (keyed t tMem).1 rows, Graph.referenced,
    compiled.relationship_getElem? mem, keyFor, column]
  simp only [tableOf]
  cases rows j.parent k.column <;> rfl

/-- Linked joins extend a row of the base table in just one way, and have the row reached along each
path under the alias of the path. -/
theorem Linked.combine_eq {joins : List Join} (linked : Linked g (Schema.ofGraph g) joins)
    (row : Row V) : ∃ rows : Combined V,
      Join.combine db joins [Function.update (fun _ => Row.null) baseAlias row] = [rows] ∧
        ∀ path tableAlias, aliasIn joins path = some tableAlias →
          rows tableAlias = g.follow (Schema.ofGraph g) db path row := by
  induction linked with
  | nil =>
    refine ⟨_, rfl, ?_⟩
    intro path tableAlias found
    unfold aliasIn Joins.tableAlias? at found
    split at found
    · next none =>
      obtain rfl := Option.some.inj found
      rw [none, Function.update_self]
      rfl
    · simp at found
  | @concat before j linked follows ih =>
    obtain ⟨rows, combined, reached⟩ := ih
    obtain ⟨i, path, joined⟩ := follows.leftJoin_eq compiled keyed rows
    refine ⟨Function.update rows j.tableAlias
      (g.referenced (Schema.ofGraph g) db i (rows j.parent)), ?_, ?_⟩
    · rw [Join.combine_concat, combined, List.flatMap_singleton, joined]
    · intro p tableAlias found
      rcases aliasIn_concat found with before' | ⟨rfl, rfl⟩
      · have other : tableAlias ≠ j.tableAlias := by
          rcases of_aliasIn before' with ⟨-, rfl⟩ | ⟨k, kMem, -, rfl⟩
          · exact follows.base.symm
          · exact follows.fresh k kMem
        rw [Function.update_of_ne other]
        exact reached p tableAlias before'
      · rw [Function.update_self, reached _ _ follows.parent]
        conv_rhs => rw [path, Graph.follow_append]
        rfl

end Meaning

/-! ## The joins along the paths of derived attributes -/

/-- Whether every relationship of a path is backed by a key. -/
def carried (s : Schema) (path : List Nat) : Bool :=
  path.all fun i => (s.keyFor? i).isSome

/-- What has been done when some paths have been joined along: those that are carried are joined,
under the alias of their number, and of each other one the last relationship is skipped. -/
structure JoinedWhere (g : Graph) (s : Schema) (paths : List (List Nat)) (js : Joins) : Prop where
  linked : Linked g s js.joins
  kept : js.joins.map (fun j => (j.path, j.tableAlias)) =
    ((paths.zipIdx 1).filter (carried s ·.1)).map fun p => (p.1, s!"t{p.2}")
  skipped : js.skipped = (paths.filter (!carried s ·)).map (·.getLastD 0)

theorem numberedAlias_injective {m n : Nat} (same : s!"t{m}" = s!"t{n}") : m = n := by
  refine Mapping.toString_injective ?_
  simpa using same

namespace JoinedWhere

variable {g : Graph} {s : Schema} {paths : List (List Nat)} {js : Joins}
  (joined : JoinedWhere g s paths js)

include joined

theorem inOrder : js.joins.map (·.path) = paths.filter (carried s) := by
  calc js.joins.map (·.path)
      = (js.joins.map fun j => (j.path, j.tableAlias)).map (·.1) := by rw [List.map_map]; rfl
    _ = ((paths.zipIdx 1).filter (carried s ·.1)).map (·.1) := by
      rw [joined.kept, List.map_map]
      rfl
    _ = ((paths.zipIdx 1).map (·.1)).filter (carried s) := by rw [List.filter_map]; rfl
    _ = paths.filter (carried s) := by rw [List.zipIdx_map_fst]

/-- The aliases have the numbers of paths. -/
theorem numbered : ∀ j ∈ js.joins, ∃ n, 0 < n ∧ n ≤ paths.length ∧ j.tableAlias = s!"t{n}" := by
  intro j mem
  have shown := List.mem_map_of_mem (f := fun j : Join => (j.path, j.tableAlias)) mem
  rw [joined.kept] at shown
  rcases List.mem_map.mp shown with ⟨⟨path, n⟩, isKept, same⟩
  rcases List.mem_zipIdx (List.mem_of_mem_filter isKept) with ⟨positive, bound, -⟩
  exact ⟨n, positive, by omega, (congrArg Prod.snd same).symm⟩

theorem alias_ne_base {j : Join} (mem : j ∈ js.joins) : j.tableAlias ≠ baseAlias := by
  rcases joined.numbered j mem with ⟨n, positive, -, isAlias⟩
  intro same
  have zero : n = 0 := numberedAlias_injective (isAlias.symm.trans same)
  omega

theorem aliases_nodup : (js.joins.map (·.tableAlias)).Nodup := by
  have aliases : js.joins.map (·.tableAlias) =
      ((paths.zipIdx 1).filter (carried s ·.1)).map fun p => s!"t{p.2}" := by
    calc js.joins.map (·.tableAlias)
        = (js.joins.map fun j => (j.path, j.tableAlias)).map (·.2) := by rw [List.map_map]; rfl
      _ = _ := by rw [joined.kept, List.map_map]; rfl
  have numbers : ((paths.zipIdx 1).map (·.2)).Nodup := by
    rw [List.zipIdx_map_snd]
    exact List.nodup_range'
  rw [aliases]
  apply List.Nodup.map_on
  · intro p pMem q qMem same
    exact List.inj_on_of_nodup_map numbers (List.mem_of_mem_filter pMem)
      (List.mem_of_mem_filter qMem) (numberedAlias_injective same)
  · exact numbers.of_map.filter _

/-- The rest of a path that is next has an alias just when it is carried. -/
theorem isSome_tableAlias? {rest : List Nat} (there : rest = [] ∨ rest ∈ paths) :
    (js.tableAlias? rest).isSome = carried s rest := by
  rw [Bool.eq_iff_iff]
  refine aliasIn_isSome_iff.trans ?_
  rw [joined.inOrder, List.mem_filter]
  constructor
  · rintro (rfl | ⟨-, isCarried⟩)
    · rfl
    · exact isCarried
  · intro isCarried
    exact there.imp_right fun mem => ⟨mem, isCarried⟩

theorem add {path : List Nat} {r : Relationship} (mem : r ∈ g.relationships)
    (derivable : r.derivable = true) (last : path = path.dropLast ++ [r.index])
    (rest : path.dropLast = [] ∨ path.dropLast ∈ paths) :
    JoinedWhere g s (paths ++ [path]) (Joins.add s js (path, paths.length + 1)) := by
  have lastEq : path.getLastD 0 = r.index := by
    rw [last]
    simp
  have carriedEq : carried s path = (carried s path.dropLast && (s.keyFor? r.index).isSome) := by
    conv_lhs => rw [last]
    simp [carried]
  rw [← joined.isSome_tableAlias? rest] at carriedEq
  have numbers : (paths ++ [path]).zipIdx 1 = paths.zipIdx 1 ++ [(path, paths.length + 1)] := by
    rw [List.zipIdx_append, List.zipIdx_singleton, Nat.add_comm]
  unfold Joins.add
  simp only [lastEq]
  split
  · next k parent keyFor parentEq =>
    have isCarried : carried s path = true := by rw [carriedEq, parentEq, keyFor]; rfl
    constructor
    · refine .concat joined.linked
        ⟨⟨r, mem, derivable, last, k, keyFor, rfl, rfl, rfl⟩, parentEq, ?_, ?_⟩
      · intro same
        have zero : paths.length + 1 = 0 := numberedAlias_injective (same.trans rfl)
        omega
      · intro i iMem same
        rcases joined.numbered i iMem with ⟨n, -, bound, numbered⟩
        have := numberedAlias_injective (numbered.symm.trans same)
        omega
    · rw [numbers, List.filter_append, List.map_append, List.map_append, joined.kept]
      simp [isCarried]
    · simp [joined.skipped, isCarried]
  · next missing =>
    have notCarried : carried s path = false := by
      rw [carriedEq, ← Bool.not_eq_true, Bool.and_eq_true]
      rintro ⟨hasParent, hasKey⟩
      rcases Option.isSome_iff_exists.mp hasParent with ⟨parent, parentEq⟩
      rcases Option.isSome_iff_exists.mp hasKey with ⟨k, keyFor⟩
      exact missing k parent keyFor parentEq
    constructor
    · exact joined.linked
    · rw [numbers, List.filter_append, List.map_append, joined.kept]
      simp [notCarried]
    · rw [List.filter_append, List.map_append, ← joined.skipped, ← lastEq]
      simp [notCarried]

end JoinedWhere

/-- What has been done when some paths have been joined along and none is left out. -/
structure JoinedAlong (g : Graph) (paths : List (List Nat)) (js : Joins) : Prop where
  linked : Linked g (Schema.ofGraph g) js.joins
  skipped : js.skipped = []
  inOrder : js.joins.map (·.path) = paths
  numbered : ∀ j ∈ js.joins, ∃ n, 0 < n ∧ n ≤ paths.length ∧ j.tableAlias = s!"t{n}"

section Along

variable {doc : Document} {g : Graph} (compiled : Compiled doc g)

include compiled

/-- A nonempty beginning of a derivation path ends with a relationship to one. -/
theorem last_of_prefix {d : DerivedAttribute} (mem : d ∈ g.derived) {path : List Nat}
    (nonempty : path ≠ []) (isStart : path <+: d.path) :
    ∃ r ∈ g.relationships, r.derivable = true ∧ path = path.dropLast ++ [r.index] := by
  obtain ⟨-, last, chain, -⟩ := compiled.chain_of_mem_derived mem
  have lastMem : path.getLast nonempty ∈ d.path := isStart.subset (List.getLast_mem nonempty)
  obtain ⟨r, rMem, derivable, index⟩ := chain.exists_of_mem lastMem
  refine ⟨r, rMem, derivable, ?_⟩
  rw [index, List.dropLast_append_getLast]

/-- The paths of a view are joined along wherever the keys of a schema carry them. -/
theorem joinedWhere_joinPaths (s : Schema) (entity : Nat) :
    JoinedWhere g s (joinPaths g (g.derivedOf entity))
      (joinsAlong s (joinPaths g (g.derivedOf entity))) := by
  have loop (before after : List (List Nat)) (js : Joins)
      (split : joinPaths g (g.derivedOf entity) = before ++ after)
      (joined : JoinedWhere g s before js) :
      JoinedWhere g s (before ++ after)
        ((after.zipIdx (before.length + 1)).foldl (Joins.add s) js) := by
    induction after generalizing before js with
    | nil => simpa using joined
    | cons path after ih =>
      obtain ⟨nonempty, rest⟩ := dropLast_mem_of_split g _ split
      have pathMem : path ∈ joinPaths g (g.derivedOf entity) := by simp [split]
      obtain ⟨-, d, dMem, isStart⟩ := (mem_joinPaths g _).mp pathMem
      obtain ⟨r, rMem, derivable, last⟩ :=
        last_of_prefix compiled (List.mem_of_mem_filter dMem) nonempty isStart
      have next := ih (before ++ [path]) _ (by simpa using split)
        (joined.add rMem derivable last rest)
      simpa using next
  have start : JoinedWhere g s [] { joins := [], skipped := [] } :=
    { linked := .nil, kept := rfl, skipped := rfl }
  exact loop [] _ _ rfl start

/-- The paths of a view are all joined along. -/
theorem joinedAlong_joinPaths (entity : Nat) :
    JoinedAlong g (joinPaths g (g.derivedOf entity))
      (joinsAlong (Schema.ofGraph g) (joinPaths g (g.derivedOf entity))) := by
  have joined := joinedWhere_joinPaths compiled (Schema.ofGraph g) entity
  have all : ∀ path ∈ joinPaths g (g.derivedOf entity),
      carried (Schema.ofGraph g) path = true := by
    intro path mem
    rcases (mem_joinPaths g _).mp mem with ⟨-, d, dMem, isStart⟩
    rcases compiled.chain_of_mem_derived (List.mem_of_mem_filter dMem) with ⟨-, last, chain, -⟩
    rw [carried, List.all_eq_true]
    intro i iMem
    rcases chain.exists_of_mem (isStart.subset iMem) with ⟨r, rMem, derivable, rfl⟩
    rcases Mapping.keyFor?_eq_some compiled rMem derivable with ⟨k, -, keyFor, -⟩
    rw [keyFor]
    rfl
  constructor
  · exact joined.linked
  · rw [joined.skipped, List.map_eq_nil_iff, List.filter_eq_nil_iff]
    intro path mem
    simp [all path mem]
  · rw [joined.inOrder]
    exact List.filter_eq_self.mpr all
  · exact joined.numbered

end Along

end FactModel.View
