import FactModel.Artifact.Rollups
import FactModel.Proofs.Schema.KeyNames
import FactModel.Proofs.View.Housing

/-!
# When rollups clash

The name of a rollup joins the names of two tables and of a column by underscores, which stand in
these names as well.  Rollups of one table have different names nevertheless, since the column is
named after that table in one of three forms that do not end alike.  Rollups of different tables may
have the same name, but only when the names of these tables have different numbers of words.
-/

namespace FactModel

namespace Rollup

open Mapping Name

/-- How far the names of rollups and of their columns are different.

* No two rollups of one table have the same name.
* All names are different just when rollups of the same name are of tables in whose names there are
  as many underscores.
* The columns that a rollup shows have different names just when the key of the parent is not named
  like the number of children, and no sum and no latest value is named like one of these. -/
structure Distinct (rollups : List Rollup) : Prop where
  ofParent : (rollups.map fun r => (r.parent, r.name)).Nodup
  names : (rollups.map (·.name)).Nodup ↔
    ∀ r ∈ rollups, ∀ r' ∈ rollups, r.name = r'.name →
      r.parent.toList.count '_' = r'.parent.toList.count '_'
  outputs : ∀ r ∈ rollups, r.outputNames.Nodup ↔
    r.parentKey ≠ r.countName ∧ ∀ x ∈ r.summaries, x.name ≠ r.parentKey ∧ x.name ≠ r.countName

/-! ## Columns -/

theorem name_total (column : String) : (Summary.total column).name = "total_" ++ column :=
  rfl

theorem name_latest (column : String) : (Summary.latest column).name = "latest_" ++ column :=
  rfl

theorem total_ne_latest (b c : String) : (Summary.total b).name ≠ (Summary.latest c).name := by
  intro same
  have first := congrArg (List.head? ∘ String.toList) same
  simp [name_total, name_latest] at first

/-- Summaries of columns of different names have different names. -/
theorem summary_name_ne {b c : Column} (differ : b.name ≠ c.name) {x y : Summary}
    (ofB : Summary.ofColumn? b = some x) (ofC : Summary.ofColumn? c = some y) :
    x.name ≠ y.name := by
  unfold Summary.ofColumn? at ofB ofC
  split at ofB <;> cases ofB <;> split at ofC <;> cases ofC
  · simpa [name_total] using differ
  · exact total_ne_latest _ _
  · exact (total_ne_latest _ _).symm
  · simpa [name_latest] using differ

theorem role_of_summary {c : Column} {x : Summary} (summary : Summary.ofColumn? c = some x) :
    c.role = .plain := by
  unfold Summary.ofColumn? at summary
  split at summary
  · assumption
  · assumption
  · contradiction

section

variable {doc : Document} {g : Graph} (compiled : Compiled doc g)

include compiled

/-- The summaries of a rollup have different names, since no two plain columns of a table are of the
same name. -/
theorem summaries_nodup {t : Table} (mem : t ∈ (Schema.ofGraph g).tables) (k : ForeignKey) :
    ((ofKey t k).summaries.map (·.name)).Nodup := by
  refine List.pairwise_map.mpr (List.pairwise_filterMap.mpr ?_)
  refine (arranged_of_mem compiled mem).first.imp fun {b c} first x ofB y ofC => ?_
  exact summary_name_ne (first (role_of_summary ofC)) ofB ofC

theorem outputNames_nodup_iff {t : Table} (mem : t ∈ (Schema.ofGraph g).tables) (k : ForeignKey) :
    (ofKey t k).outputNames.Nodup ↔ (ofKey t k).parentKey ≠ (ofKey t k).countName ∧
      ∀ x ∈ (ofKey t k).summaries,
        x.name ≠ (ofKey t k).parentKey ∧ x.name ≠ (ofKey t k).countName := by
  have summaries := summaries_nodup compiled mem k
  generalize ofKey t k = r at summaries
  simp only [outputNames, List.cons_append, List.nil_append, List.nodup_cons, List.mem_cons,
    List.mem_map, not_or, not_exists, not_and, summaries, and_true]
  constructor
  · rintro ⟨⟨apart, noKey⟩, noCount⟩
    exact ⟨apart, fun x mem => ⟨noKey x mem, noCount x mem⟩⟩
  · rintro ⟨apart, others⟩
    exact ⟨⟨apart, fun x mem => (others x mem).1⟩, fun x mem => (others x mem).2⟩

/-! ## Names -/

omit compiled in
theorem toList_name (t : Table) (k : ForeignKey) : (ofKey t k).name.toList =
    "agg_".toList ++ ((View.stem k.refTable).toList ++ '_' :: ((View.stem t.name).toList ++
      '_' :: ("by".toList ++ '_' :: (identifier k.column).toList))) := by
  have joined : (ofKey t k).name = "agg_" ++ View.stem k.refTable ++ "_" ++ View.stem t.name ++
      "_by_" ++ identifier k.column := rfl
  simp [joined]

/-- Rollups of one table that have the same name are made for keys on the same column of the same
table. -/
theorem eq_of_name {t t' : Table} (tMem : t ∈ (Schema.ofGraph g).tables)
    (tMem' : t' ∈ (Schema.ofGraph g).tables) {k k' : ForeignKey} (kMem : k ∈ t.foreignKeys)
    (kMem' : k' ∈ t'.foreignKeys) (refTable : k.refTable = k'.refTable)
    (name : (ofKey t k).name = (ofKey t' k').name) : t = t' ∧ k.column = k'.column := by
  obtain ⟨i, iBound, form, iTable, column⟩ := named_of_mem compiled tMem k kMem
  obtain ⟨j, jBound, form', jTable, column'⟩ := named_of_mem compiled tMem' k' kMem'
  obtain rfl := nameOf_injective iBound jBound (iTable.symm.trans (refTable.trans jTable))
  have same : (View.stem t.name).toList ++
      '_' :: ("by".toList ++ '_' :: (identifier k.column).toList) =
        (View.stem t'.name).toList ++
          '_' :: ("by".toList ++ '_' :: (identifier k'.column).toList) := by
    have whole := congrArg String.toList name
    rw [toList_name, toList_name, refTable] at whole
    simpa using whole
  -- At the underscores the names fall into words, and those of the column tell its form.
  have forms : form = form' := by
    have split := congrArg (List.splitOn '_') same
    have single : "by".toList.splitOn '_' = ["by".toList] :=
      List.splitOn_eq_singleton (by decide)
    simp only [List.splitOn_append_cons_self, single, column, column', splitOn_column] at split
    exact KeyForm.eq_of_words split
  have columns : k.column = k'.column := by rw [column, column', forms]
  rw [columns] at same
  have stems : View.stem t.name = View.stem t'.name :=
    String.toList_injective (List.append_cancel_right same)
  exact ⟨View.eq_of_stem compiled tMem tMem' stems, columns⟩

/-- No two rollups of one table have the same name. -/
theorem nodup_parent_name :
    ((all (Schema.ofGraph g)).map fun r => (r.parent, r.name)).Nodup := by
  rw [all, List.map_flatMap]
  refine List.nodup_flatMap.mpr ⟨fun t tMem => ?_, ?_⟩
  · rw [List.map_map]
    refine List.pairwise_map.mpr ((List.pairwise_map.mp (links_of_mem compiled tMem)).imp_of_mem ?_)
    intro k k' kMem kMem' differ same
    have refTable : k.refTable = k'.refTable := congrArg Prod.fst same
    have column := (eq_of_name compiled tMem tMem kMem kMem' refTable (congrArg Prod.snd same)).2
    exact differ (by rw [column, refTable])
  · refine (tables_indexed compiled).nodup.imp_of_mem fun {t t'} tMem tMem' differ => ?_
    intro pair inFirst inSecond
    simp only [List.map_map, List.mem_map] at inFirst inSecond
    obtain ⟨k, kMem, rfl⟩ := inFirst
    obtain ⟨k', kMem', same⟩ := inSecond
    exact differ (eq_of_name compiled tMem tMem' kMem kMem' (congrArg Prod.fst same).symm
      (congrArg Prod.snd same).symm).1

omit compiled in
/-- What is in front of a mark is known from how many marks are in it. -/
theorem eq_of_count {α : Type} [DecidableEq α] {mark : α} {front front' rest rest' : List α}
    (same : front ++ mark :: rest = front' ++ mark :: rest')
    (marks : front.count mark = front'.count mark) : front = front' := by
  rcases List.append_eq_append_iff.mp same with ⟨more, longer, behind⟩ | ⟨more, longer, behind⟩
  · cases more with
    | nil => rw [longer, List.append_nil]
    | cons c more =>
      obtain ⟨rfl, -⟩ := List.cons.inj behind
      simp [longer] at marks
  · cases more with
    | nil => rw [longer, List.append_nil]
    | cons c more =>
      obtain ⟨rfl, -⟩ := List.cons.inj behind
      simp [longer] at marks

theorem exists_parent_eq_append {r : Rollup} (mem : r ∈ all (Schema.ofGraph g)) :
    ∃ rest behind, r.parent = tableStart ++ rest ∧
      r.name.toList = "agg_".toList ++ (rest.toList ++ '_' :: behind) := by
  obtain ⟨t, tMem, made⟩ := List.mem_flatMap.mp mem
  obtain ⟨k, kMem, rfl⟩ := List.mem_map.mp made
  obtain ⟨i, bound, -, refTable, -⟩ := named_of_mem compiled tMem k kMem
  obtain ⟨u, uMem, -, sound, -⟩ := tableOf_eq_ok compiled bound
  obtain ⟨rest, start⟩ := exists_name_eq_append compiled uMem
  have parent : k.refTable = tableStart ++ rest := by rw [refTable, ← sound.named, start]
  exact ⟨rest, _, parent, by rw [toList_name, parent, View.stem_append]⟩

/-- Rollups of the same name are of the same table when the names of their tables have as many
underscores. -/
theorem parent_eq_of_count {r r' : Rollup} (mem : r ∈ all (Schema.ofGraph g))
    (mem' : r' ∈ all (Schema.ofGraph g)) (name : r.name = r'.name)
    (marks : r.parent.toList.count '_' = r'.parent.toList.count '_') : r.parent = r'.parent := by
  obtain ⟨rest, behind, parent, split⟩ := exists_parent_eq_append compiled mem
  obtain ⟨rest', behind', parent', split'⟩ := exists_parent_eq_append compiled mem'
  have same : rest.toList ++ '_' :: behind = rest'.toList ++ '_' :: behind' := by
    rw [name, split'] at split
    exact (List.append_cancel_left split).symm
  rw [parent, parent', String.toList_append, String.toList_append, List.count_append,
    List.count_append, Nat.add_left_cancel_iff] at marks
  rw [parent, parent', String.toList_injective (eq_of_count same marks)]

end

/-- Rollups of a compiled graph clash only across tables in whose names there are different numbers
of words. -/
theorem distinct_of_compile {text : String} {g : Graph} (compiles : compile text = .ok g) :
    Distinct (all (Schema.ofGraph g)) := by
  obtain ⟨doc, -, compiled⟩ := compiled_of_compile compiles
  have ofParent := nodup_parent_name compiled
  refine ⟨ofParent, ⟨fun nodup r mem r' mem' same => ?_, fun marks => ?_⟩, fun r mem => ?_⟩
  · rw [List.inj_on_of_nodup_map nodup mem mem' same]
  · refine List.Nodup.map_on (fun r mem r' mem' same => ?_) (List.Nodup.of_map _ ofParent)
    have parent := parent_eq_of_count compiled mem mem' same (marks r mem r' mem' same)
    exact List.inj_on_of_nodup_map ofParent mem mem' (by rw [parent, same])
  · obtain ⟨t, tMem, made⟩ := List.mem_flatMap.mp mem
    obtain ⟨k, -, rfl⟩ := List.mem_map.mp made
    exact outputNames_nodup_iff compiled tMem k

/-- Two rollups of orders that come to an amount: by their customers and by their shops. -/
theorem distinct_beside_total : ∃ g,
    compile ("**Customer**\n**Shop**\n**Order**\n- Order has a Customer.\n- Order has a Shop.\n" ++
      "- Order has an Amount (Number).\n") = .ok g ∧
    (all (Schema.ofGraph g)).map (fun r => (r.name, r.outputNames)) =
      [("agg_customer_order_by_customer_id", ["customer_id", "order_count", "total_amount"]),
       ("agg_shop_order_by_shop_id", ["shop_id", "order_count", "total_amount"])] ∧
    Distinct (all (Schema.ofGraph g)) := by
  have passes : compilesTo
      ("**Customer**\n**Shop**\n**Order**\n- Order has a Customer.\n- Order has a Shop.\n" ++
        "- Order has an Amount (Number).\n")
      (fun g => decide ((all (Schema.ofGraph g)).map (fun r => (r.name, r.outputNames)) =
        [("agg_customer_order_by_customer_id", ["customer_id", "order_count", "total_amount"]),
         ("agg_shop_order_by_shop_id", ["shop_id", "order_count", "total_amount"])])) = true := by
    decide +kernel
  obtain ⟨g, compiles, shown⟩ := of_compilesTo passes
  exact ⟨g, compiles, of_decide_eq_true shown, distinct_of_compile compiles⟩

/-- Two rollups may have the same name, and two columns of a rollup as well: the first where the key
of an item to an order is named like one to an order's reference, since the item has a plain order
already, and the second where a customer is identified by what its orders are counted as. -/
theorem not_all_different :
    (¬∀ text g, compile text = .ok g → ((all (Schema.ofGraph g)).map (·.name)).Nodup) ∧
      ¬∀ text g, compile text = .ok g → ∀ r ∈ all (Schema.ofGraph g), r.outputNames.Nodup := by
  constructor
  · intro different
    have passes : compilesTo
        ("**Order**\n**Order Ref**\n**Item**\n- Item has an Order Ref.\n**Ref Item**\n" ++
          "- Ref Item has an Order (Number).\n- Ref Item has exactly one Order.\n")
        (fun g => decide ((all (Schema.ofGraph g)).map (·.name) =
          ["agg_order_ref_item_by_order_ref_id", "agg_order_ref_item_by_order_ref_id"])) =
            true := by
      decide +kernel
    obtain ⟨g, compiles, shown⟩ := of_compilesTo passes
    have nodup := different _ g compiles
    rw [of_decide_eq_true shown] at nodup
    simp at nodup
  · intro different
    have passes : compilesTo
        ("**Customer**\n- Customer is identified by its Order Count.\n" ++
          "**Order**\n- Order has a Customer.\n")
        (fun g => decide (∃ r ∈ all (Schema.ofGraph g),
          r.outputNames = ["order_count", "order_count"])) = true := by
      decide +kernel
    obtain ⟨g, compiles, shown⟩ := of_compilesTo passes
    obtain ⟨r, mem, names⟩ := of_decide_eq_true shown
    have nodup := different _ g compiles r mem
    rw [names] at nodup
    simp at nodup

end Rollup

end FactModel
