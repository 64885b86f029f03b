import FactModel.Proofs.Schema.Creatable
import FactModel.Proofs.Schema.Origins
import FactModel.Proofs.Text.Identifiers

/-!
# The columns of foreign keys

The column of a foreign key is named after the entity that is referred to, in one of three forms.
A table has no two keys on the same column to the same table.
-/

namespace FactModel.Mapping

open ForeignKey

/-- The forms of the columns of foreign keys: made for a reference attribute or a relationship to
many, for a relationship to one that no attribute stands for, and for a relationship of an entity to
many of its own kind. -/
inductive KeyForm where
  | plain
  | shadowed
  | parent

/-- The name of a column of a form that refers to an entity. -/
def KeyForm.column : KeyForm → String → String
  | .plain, entity => keyName entity
  | .shadowed, entity => Name.identifier entity ++ "_ref_id"
  | .parent, entity => "parent_" ++ keyName entity

/-- A foreign key refers to the table of an entity, on a column that is named after the entity. -/
def Named (g : Graph) (k : ForeignKey) : Prop :=
  ∃ i < g.entities.length, ∃ form : KeyForm,
    k.refTable = nameOf g i ∧ k.column = form.column (g.entityName i)

section

variable {doc : Document} {g : Graph} (compiled : Compiled doc g)

theorem named_concat {ks : List ForeignKey} (named : ∀ k ∈ ks, Named g k) {k : ForeignKey}
    (last : Named g k) : ∀ k' ∈ ks ++ [k], Named g k' := by
  intro k' mem
  rcases List.mem_append.mp mem with old | new
  · exact named k' old
  · rwa [List.mem_singleton.mp new]

include compiled

theorem named_tableOf (entity : Nat) : ∀ k ∈ (tableOf g entity).foreignKeys, Named g k := by
  refine List.foldlRecOn (motive := fun l : Layout => ∀ k ∈ l.keys, Named g k) _ _ ?_
    fun l named r mem => ?_
  · refine List.foldlRecOn (motive := fun l : Layout => ∀ k ∈ l.keys, Named g k) _ _ (by simp)
      fun l named a mem => ?_
    obtain ⟨-, ⟨-, same⟩ | ⟨target, references, -, made, -⟩⟩ := add_cases g entity l a
    · rwa [same]
    · rw [made]
      obtain ⟨r, rMem, -, -, rfl, -⟩ :=
        relationshipTo_spec compiled (compiled.mem_attributesOf.mp mem).1 references
      exact named_concat named ⟨r.target, (compiled.ends_lt rMem).2, .plain, rfl, rfl⟩
  · rw [addShadowed_eq]
    split
    · have bound := (compiled.ends_lt (mem_outgoing.mp mem).1).2
      exact named_concat named ⟨r.target, bound, .shadowed, rfl, rfl⟩
    · exact named

theorem named_addReverse {r : Relationship} (mem : r ∈ toMany g) {t : Table}
    (named : ∀ k ∈ t.foreignKeys, Named g k) : ∀ k ∈ (addReverse g r t).foreignKeys, Named g k := by
  unfold addReverse
  extract_lets name isShared columns
  split
  · -- Sharing a key changes neither its column nor the table that it refers to.
    intro k kMem
    have there := List.mem_map_of_mem (f := fun k : ForeignKey => (k.column, k.refTable)) kMem
    rw [map_share (fun _ _ => rfl), List.mem_map] at there
    obtain ⟨k', mem', same⟩ := there
    obtain ⟨i, bound, form, refTable, column⟩ := named k' mem'
    exact ⟨i, bound, form, (congrArg Prod.snd same).symm.trans refTable,
      (congrArg Prod.fst same).symm.trans column⟩
  · have bound := (compiled.ends_lt (List.mem_of_mem_filter mem)).1
    refine named_concat named ?_
    by_cases loop : r.source = r.target
    · refine ⟨r.source, bound, .parent, rfl, ?_⟩
      simp [foreignKey, name, reverseName, loop, KeyForm.column]
    · refine ⟨r.source, bound, .plain, rfl, ?_⟩
      simp [foreignKey, name, reverseName, loop, KeyForm.column]

/-- The columns of all foreign keys are named after the entities that they refer to. -/
theorem named_of_mem {t : Table} (mem : t ∈ (Schema.ofGraph g).tables) :
    ∀ k ∈ t.foreignKeys, Named g k :=
  forall_mem_ofGraph (P := fun t => ∀ k ∈ t.foreignKeys, Named g k)
    (fun e _ => named_tableOf compiled e.index)
    (fun _ rMem _ named => named_addReverse compiled rMem named) t mem

/-- Before keys are added in reverse, no two keys of a table are alike in column and table. -/
theorem links_tableOf (entity : Nat) :
    ((tableOf g entity).foreignKeys.map fun k => (k.column, k.refTable)).Nodup := by
  have sound := tableSound_tableOf compiled entity
  obtain ⟨nodup, standing_iff⟩ := standing_tableOf compiled entity
  have made (k : ForeignKey) (mem : k ∈ (tableOf g entity).foreignKeys) :
      ∃ r ∈ g.relationships, r.derivable = true ∧ r.source = entity ∧ r.index = k.relationship ∧
        k.refTable = nameOf g r.target := by
    obtain ⟨r, rMem, -, index, refTable, -⟩ := (sound.keys k mem).made
    obtain ⟨s, sMem, source, derivable, sIndex⟩ := (standing_iff k.relationship).mp
      (mem_standing.mpr ⟨k, mem, backs_iff.mpr List.mem_cons_self⟩)
    obtain rfl := compiled.eq_of_index rMem sMem (index.symm.trans sIndex.symm)
    rw [r.referred_of_derivable derivable] at refTable
    exact ⟨r, rMem, derivable, source, sIndex, refTable⟩
  refine List.pairwise_map.mpr ((List.nodup_flatMap.mp nodup).2.imp_of_mem ?_)
  -- Two keys to the same table would be made for the same relationship.
  intro k k' kMem kMem' apart same
  obtain ⟨r, rMem, rDerivable, rSource, rIndex, rTable⟩ := made k kMem
  obtain ⟨s, sMem, sDerivable, sSource, sIndex, sTable⟩ := made k' kMem'
  have target : r.target = s.target :=
    nameOf_injective (compiled.ends_lt rMem).2 (compiled.ends_lt sMem).2
      (rTable.symm.trans ((congrArg Prod.snd same).trans sTable))
  have index := compiled.wellFormed.apart.links r rMem s sMem (rSource.trans sSource.symm) target
    (rDerivable.trans sDerivable.symm)
  have relationship : k.relationship = k'.relationship :=
    rIndex.symm.trans (index.trans sIndex)
  exact apart List.mem_cons_self (relationship ▸ List.mem_cons_self)

omit compiled in
theorem links_addReverse {r : Relationship} {t : Table}
    (nodup : (t.foreignKeys.map fun k => (k.column, k.refTable)).Nodup) :
    ((addReverse g r t).foreignKeys.map fun k => (k.column, k.refTable)).Nodup := by
  unfold addReverse
  extract_lets name isShared columns
  split
  · rwa [map_share (fun _ _ => rfl)]
  · next new =>
    rw [List.map_append, List.map_singleton, nodup_concat_iff]
    refine ⟨nodup, fun there => new ?_⟩
    obtain ⟨k, mem, same⟩ := List.mem_map.mp there
    refine List.any_eq_true.mpr ⟨k, mem, ?_⟩
    have column : k.column = name := congrArg Prod.fst same
    have refTable : k.refTable = nameOf g r.source := congrArg Prod.snd same
    simp [isShared, column, refTable]

/-- No two keys of a table are on the same column and refer to the same table. -/
theorem links_of_mem {t : Table} (mem : t ∈ (Schema.ofGraph g).tables) :
    (t.foreignKeys.map fun k => (k.column, k.refTable)).Nodup :=
  forall_mem_ofGraph (P := fun t => (t.foreignKeys.map fun k => (k.column, k.refTable)).Nodup)
    (fun e _ => links_tableOf compiled e.index) (fun _ _ _ nodup => links_addReverse nodup) t mem

end

/-! ## The words of a column -/

open Name

/-- The words of a column of a form, where some words are those of the entity that is referred
to. -/
def KeyForm.words : KeyForm → List (List Char) → List (List Char)
  | .plain, words => words ++ ["id".toList]
  | .shadowed, words => words ++ ["ref".toList, "id".toList]
  | .parent, words => "parent".toList :: words ++ ["id".toList]

theorem lowerWords_column (form : KeyForm) (entity : String) :
    lowerWords (form.column entity).toList =
      form.words (lowerWords (identifier entity).toList) := by
  have between : isIdentifierChar '_' = false := by decide
  have idWords : lowerWords "id".toList = ["id".toList] := by decide
  have refWords : lowerWords "ref_id".toList = ["ref".toList, "id".toList] := by decide
  have parentWords : lowerWords "parent".toList = ["parent".toList] := by decide
  have key : lowerWords (keyName entity).toList =
      lowerWords (identifier entity).toList ++ ["id".toList] := by
    have split : (keyName entity).toList = (identifier entity).toList ++ '_' :: "id".toList :=
      String.toList_append
    rw [split, lowerWords_append between, idWords]
  cases form with
  | plain => exact key
  | shadowed =>
    have split : (KeyForm.shadowed.column entity).toList =
        (identifier entity).toList ++ '_' :: "ref_id".toList := String.toList_append
    rw [split, lowerWords_append between, refWords]
    rfl
  | parent =>
    have split : (KeyForm.parent.column entity).toList =
        "parent".toList ++ '_' :: (keyName entity).toList := by
      simp [KeyForm.column]
    rw [split, lowerWords_append between, key, parentWords, KeyForm.words, List.cons_append,
      List.cons_append, List.nil_append]

/-- At its underscores the identifier of a column falls into the words of its form. -/
theorem splitOn_column (form : KeyForm) (entity : String) :
    let words := form.words (lowerWords (identifier entity).toList)
    (identifier (form.column entity)).toList.splitOn '_' = lead words ++ words := by
  intro words
  have some : lowerWords (form.column entity).toList ≠ [] := by
    rw [lowerWords_column]
    cases form <;> simp [KeyForm.words]
  rw [identifier_eq, String.toList_ofList, splitOn_identifierChars some, lowerWords_column]

theorem lead_append {vs : List (List Char)} (none : lead vs = []) (ws : List (List Char)) :
    lead (ws ++ vs) = lead ws := by
  cases ws with
  | nil => exact none
  | cons w ws => rfl

/-- A list stays as it is when its last element moves to the front only if it is the same element
all over. -/
theorem eq_of_cons_eq_concat {α : Type} [DecidableEq α] {x y : α} {l : List α}
    (same : x :: l = l ++ [y]) : x = y := by
  have counts := congrArg (List.count x) same
  rw [List.count_cons_self, List.count_append, List.count_singleton] at counts
  by_contra differ
  simp [Ne.symm differ] at counts

/-- What is behind an element does not get longer at its end by another element. -/
theorem append_cons_ne {α : Type} [DecidableEq α] {x y : α} (differ : x ≠ y)
    (front front' l : List α) : front ++ x :: l ≠ front' ++ (x :: l ++ [y]) := by
  intro same
  rcases List.append_eq_append_iff.mp same with ⟨more, -, longer⟩ | ⟨more, -, longer⟩
  · have lengths := congrArg List.length longer
    simp at lengths
    omega
  · have lengths := congrArg List.length longer
    obtain ⟨z, rfl⟩ : ∃ z, more = [z] := List.length_eq_one_iff.mp (by simp at lengths; omega)
    obtain rfl := eq_of_cons_eq_concat longer.symm
    exact differ (List.cons.inj longer).1

section Forms

variable {front front' words : List (List Char)}

theorem plain_ne_shadowed :
    front ++ "by".toList :: (lead words ++ (words ++ ["id".toList])) ≠
      front' ++ "by".toList :: (lead words ++ (words ++ ["ref".toList, "id".toList])) := by
  intro same
  have differ : "by".toList ≠ "ref".toList := by decide
  refine append_cons_ne differ front front' (lead words ++ words) ?_
  refine (List.append_left_inj ["id".toList]).mp ?_
  simpa using same

theorem plain_ne_parent :
    front ++ "by".toList :: (lead words ++ (words ++ ["id".toList])) ≠
      front' ++ "by".toList :: ("parent".toList :: words ++ ["id".toList]) := by
  intro same
  have ends : front ++ "by".toList :: lead words = front' ++ ["by".toList, "parent".toList] := by
    refine (List.append_left_inj (words ++ ["id".toList])).mp ?_
    simpa using same
  have last := congrArg List.getLast? ends
  rcases lead_cases words with none | some
  · rw [none] at last
    simp at last
  · rw [some] at last
    simp at last

theorem shadowed_ne_parent :
    front ++ "by".toList :: (lead words ++ (words ++ ["ref".toList, "id".toList])) ≠
      front' ++ "by".toList :: ("parent".toList :: words ++ ["id".toList]) := by
  intro same
  have ends : front ++ ("by".toList :: lead words) ++ (words ++ ["ref".toList]) =
      front' ++ ("by".toList :: "parent".toList :: words) := by
    refine (List.append_left_inj ["id".toList]).mp ?_
    simpa using same
  rcases lead_cases words with none | some
  · have aligned : (front ++ ["by".toList]) ++ (words ++ ["ref".toList]) =
        (front' ++ ["by".toList]) ++ ("parent".toList :: words) := by
      simpa [none] using ends
    have behind := (List.append_inj' aligned (by simp)).2
    exact absurd (eq_of_cons_eq_concat behind.symm) (by decide)
  · have aligned : (front ++ ["by".toList]) ++ ([] :: (words ++ ["ref".toList])) =
        front' ++ ("by".toList :: "parent".toList :: words) := by
      simpa [some] using ends
    have behind := (List.append_inj' aligned (by simp)).2
    simp at behind

end Forms

/-- Behind a word that tells where it begins, the words of a column tell the form. -/
theorem KeyForm.eq_of_words {front front' words : List (List Char)} {form form' : KeyForm}
    (same : front ++ "by".toList :: (lead (form.words words) ++ form.words words) =
      front' ++ "by".toList :: (lead (form'.words words) ++ form'.words words)) :
    form = form' := by
  have plain : lead (KeyForm.plain.words words) = lead words := lead_append (by decide) words
  have shadowed : lead (KeyForm.shadowed.words words) = lead words := lead_append (by decide) words
  have parent : lead (KeyForm.parent.words words) = [] := rfl
  cases form with
  | plain =>
    cases form' with
    | plain => rfl
    | shadowed => exact absurd (plain ▸ shadowed ▸ same) plain_ne_shadowed
    | parent => exact absurd (plain ▸ parent ▸ same) plain_ne_parent
  | shadowed =>
    cases form' with
    | plain => exact absurd (plain ▸ shadowed ▸ same.symm) plain_ne_shadowed
    | shadowed => rfl
    | parent => exact absurd (shadowed ▸ parent ▸ same) shadowed_ne_parent
  | parent =>
    cases form' with
    | plain => exact absurd (plain ▸ parent ▸ same.symm) plain_ne_parent
    | shadowed => exact absurd (shadowed ▸ parent ▸ same.symm) shadowed_ne_parent
    | parent => rfl

end FactModel.Mapping
