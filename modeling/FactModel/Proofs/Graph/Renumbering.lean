import Mathlib.Data.List.Forall2
import Mathlib.Data.Set.Function
import Mathlib.Order.Interval.Set.Defs
import FactModel.Proofs.Derivation.Dependence
import FactModel.Proofs.Graph.Commuting

/-!
# Regrouped drafts differ in numbers

Attributes are told apart by their owners and names, and relationships by their ends and kinds.  When
two drafts hold the same of every entity, each attribute and each relationship of the one has a
counterpart in the other, and to put the counterparts for one another takes the one draft to the
other.
-/

namespace FactModel

open Arena

/-! ## Counterparts -/

section Counterparts

variable {α β : Type} [DecidableEq β] {label : α → β} {index : α → Nat} {l l' : List α}

/-- Elements carry their own positions and are told apart by their labels. -/
structure Labelled (label : α → β) (index : α → Nat) (l : List α) : Prop where
  indexed : Indexed index l
  apart : ∀ a ∈ l, ∀ b ∈ l, label a = label b → index a = index b

/-- The position of the element in the second list that has the label of the one at a position of
the first list. -/
def counterpart (label : α → β) (index : α → Nat) (l l' : List α) (i : Nat) : Nat :=
  ((l[i]?).bind fun a => l'.find? (label · == label a)).elim i index

theorem counterpart_eq (left : Labelled label index l) (right : Labelled label index l') {a b : α}
    (aMem : a ∈ l) (bMem : b ∈ l') (same : label a = label b) :
    counterpart label index l l' (index a) = index b := by
  have some : (l'.find? (label · == label a)).isSome = true :=
    List.find?_isSome.mpr ⟨b, bMem, beq_iff_eq.mpr same.symm⟩
  obtain ⟨c, found⟩ := Option.isSome_iff_exists.mp some
  have cLabel : label c = label a := by simpa using List.find?_some found
  rw [counterpart, left.indexed.getElem? aMem, Option.bind_some, found]
  exact right.apart c (List.mem_of_find?_eq_some found) b bMem (cLabel.trans same)

/-- When the same labels occur in two lists, counterparts form a renumbering. -/
theorem bijOn_counterpart (left : Labelled label index l) (right : Labelled label index l')
    (labels : ∀ x, x ∈ l.map label ↔ x ∈ l'.map label) :
    Set.BijOn (counterpart label index l l') (Set.Iio l.length) (Set.Iio l'.length) := by
  have exists_pair {i : Nat} (bound : i < l.length) :
      ∃ a ∈ l, index a = i ∧ ∃ b ∈ l', label a = label b := by
    have mem := List.getElem_mem bound
    obtain ⟨b, bMem, same⟩ := List.mem_map.mp ((labels _).mp (List.mem_map_of_mem mem))
    exact ⟨l[i], mem, left.indexed i _ (List.getElem?_eq_getElem bound), b, bMem, same.symm⟩
  refine ⟨?_, ?_, ?_⟩
  · intro i bound
    obtain ⟨a, aMem, rfl, b, bMem, same⟩ := exists_pair bound
    rw [counterpart_eq left right aMem bMem same]
    exact right.indexed.lt_length bMem
  · intro i iBound j jBound equal
    obtain ⟨a, aMem, rfl, b, bMem, aSame⟩ := exists_pair iBound
    obtain ⟨c, cMem, rfl, d, dMem, cSame⟩ := exists_pair jBound
    rw [counterpart_eq left right aMem bMem aSame, counterpart_eq left right cMem dMem cSame] at equal
    obtain rfl := right.indexed.eq_of_index bMem dMem equal
    exact left.apart a aMem c cMem (aSame.trans cSame.symm)
  · intro j bound
    have mem := List.getElem_mem bound
    obtain ⟨a, aMem, same⟩ := List.mem_map.mp ((labels _).mpr (List.mem_map_of_mem mem))
    refine ⟨index a, left.indexed.lt_length aMem, ?_⟩
    rw [counterpart_eq left right aMem mem same]
    exact right.indexed j _ (List.getElem?_eq_getElem bound)

/-- Counterparts are not affected by changes that keep labels and positions. -/
theorem counterpart_map {f : α → α} (labels : ∀ a, label (f a) = label a)
    (positions : ∀ a, index (f a) = index a) :
    counterpart label index (l.map f) (l'.map f) = counterpart label index l l' := by
  funext i
  rw [counterpart, counterpart, List.getElem?_map]
  cases l[i]? with
  | none => rfl
  | some a =>
    simp only [Option.map_some, Option.bind_some, List.find?_map, labels]
    rw [show (fun b => label b == label a) ∘ f = fun b => label b == label a from
      funext fun b => by simp [labels]]
    cases l'.find? fun b => label b == label a with
    | none => rfl
    | some b => exact positions b

omit [DecidableEq β] in
/-- Lists that look the same correspond element by element. -/
theorem forall₂_of_map_eq {R : α → α → Prop}
    (pairs : ∀ a ∈ l, ∀ b ∈ l', label a = label b → R a b) (same : l.map label = l'.map label) :
    List.Forall₂ R l l' := by
  induction l generalizing l' with
  | nil =>
    rw [List.map_eq_nil_iff.mp same.symm]
    exact .nil
  | cons a l ih =>
    cases l' with
    | nil => simp at same
    | cons b l' =>
      obtain ⟨first, rest⟩ := List.cons.inj same
      refine .cons (pairs a List.mem_cons_self b List.mem_cons_self first) (ih ?_ rest)
      intro c cMem d dMem
      exact pairs c (List.mem_cons_of_mem _ cMem) d (List.mem_cons_of_mem _ dMem)

omit [DecidableEq β] in
/-- Lists that look the same have the same images under functions that agree on what looks the
same. -/
theorem map_eq_of_map_eq {γ : Type} {f f' : α → γ}
    (pairs : ∀ a ∈ l, ∀ b ∈ l', label a = label b → f a = f' b)
    (same : l.map label = l'.map label) : l.map f = l'.map f' := by
  rw [← List.forall₂_eq_eq_eq, List.forall₂_map_left_iff, List.forall₂_map_right_iff]
  exact forall₂_of_map_eq pairs same

omit [DecidableEq β] in
theorem eq_map_of_map_eq {f : α → α} (pairs : ∀ a ∈ l, ∀ b ∈ l', label a = label b → b = f a)
    (same : l.map label = l'.map label) : l' = l.map f := by
  have images : l.map f = l'.map id :=
    map_eq_of_map_eq (fun a aMem b bMem looks => (pairs a aMem b bMem looks).symm) same
  rw [images, List.map_id]

end Counterparts

/-! ## Counterparts in drafts -/

/-- By what attributes are told apart. -/
def Attribute.label (a : Attribute) : Nat × String :=
  (a.entity, a.name)

/-- By what relationships are told apart. -/
def Relationship.label (r : Relationship) : Nat × Nat × Bool :=
  (r.source, r.target, r.derivable)

theorem Attribute.label_congr {a b : Attribute} (same : a.unplaced = b.unplaced) :
    a.label = b.label :=
  (congrArg Attribute.label same :)

theorem Relationship.label_congr {r s : Relationship} (same : r.unplaced = s.unplaced) :
    r.label = s.label :=
  (congrArg Relationship.label same :)

namespace Draft

/-- The positions in a second draft of what corresponds to the elements of a first one. -/
def matching (d e : Draft) : Renumbering where
  attributeAt := counterpart Attribute.label Attribute.index d.attributes e.attributes
  relationshipAt := counterpart Relationship.label Relationship.index d.relationships e.relationships

/-- A draft is another one under other numbers. -/
structure Renumbered (n : Renumbering) (d e : Draft) : Prop where
  attributes : Set.BijOn n.attributeAt (Set.Iio d.attributes.length) (Set.Iio e.attributes.length)
  relationships :
    Set.BijOn n.relationshipAt (Set.Iio d.relationships.length) (Set.Iio e.relationships.length)
  entities : e.entities = d.entities.map (·.renumber n)
  explicit : ∀ i, e.attributesOf i = (d.attributesOf i).map (·.renumber n)
  outgoing : ∀ i, e.relationships.filter (·.source == i) =
    (d.relationships.filter (·.source == i)).map (·.renumber n)

variable {d e : Draft}

theorem WellFormed.labelledAttributes (wellFormed : d.WellFormed) :
    Labelled Attribute.label Attribute.index d.attributes := by
  refine ⟨wellFormed.placed.attributeIndex, fun a aMem b bMem same => ?_⟩
  obtain ⟨owner, name⟩ := Prod.mk.inj same
  exact wellFormed.apart.attributeKeys a aMem b bMem owner (congrArg Name.key name)

theorem WellFormed.labelledRelationships (wellFormed : d.WellFormed) :
    Labelled Relationship.label Relationship.index d.relationships := by
  refine ⟨wellFormed.apart.relationshipIndex, fun r rMem s sMem same => ?_⟩
  simp only [Relationship.label, Prod.mk.injEq] at same
  exact wellFormed.apart.links r rMem s sMem same.1 same.2.1 same.2.2

namespace Regrouped

variable (regrouped : Regrouped d e)

include regrouped

theorem attributes_eq (i : Nat) :
    (d.attributes.filter (·.entity == i)).map Attribute.unplaced =
      (e.attributes.filter (·.entity == i)).map Attribute.unplaced :=
  congrArg Portion.attributes (regrouped.portion i)

theorem exists_attribute {a : Attribute} (mem : a ∈ d.attributes) :
    ∃ b ∈ e.attributes, a.unplaced = b.unplaced := by
  have shown : a.unplaced ∈ (d.attributes.filter (·.entity == a.entity)).map Attribute.unplaced :=
    List.mem_map_of_mem (List.mem_filter.mpr ⟨mem, by simp⟩)
  rw [regrouped.attributes_eq] at shown
  obtain ⟨b, bMem, same⟩ := List.mem_map.mp shown
  exact ⟨b, List.mem_of_mem_filter bMem, same.symm⟩

theorem symm : Regrouped e d :=
  ⟨regrouped.right, regrouped.left, regrouped.heads.symm, fun i => (regrouped.portion i).symm,
    regrouped.diagnostics.symm⟩

theorem attributeLabels (x : Nat × String) :
    x ∈ d.attributes.map Attribute.label ↔ x ∈ e.attributes.map Attribute.label := by
  have forward {d e : Draft} (regrouped : Regrouped d e)
      (mem : x ∈ d.attributes.map Attribute.label) : x ∈ e.attributes.map Attribute.label := by
    obtain ⟨a, aMem, rfl⟩ := List.mem_map.mp mem
    obtain ⟨b, bMem, same⟩ := regrouped.exists_attribute aMem
    exact List.mem_map.mpr ⟨b, bMem, Attribute.label_congr same.symm⟩
  exact ⟨forward regrouped, forward regrouped.symm⟩

theorem relationshipLabels (x : Nat × Nat × Bool) :
    x ∈ d.relationships.map Relationship.label ↔ x ∈ e.relationships.map Relationship.label := by
  have forward {d e : Draft} (regrouped : Regrouped d e)
      (mem : x ∈ d.relationships.map Relationship.label) :
      x ∈ e.relationships.map Relationship.label := by
    obtain ⟨r, rMem, rfl⟩ := List.mem_map.mp mem
    obtain ⟨s, sMem, same⟩ := regrouped.related.exists_eq rMem
    exact List.mem_map.mpr ⟨s, sMem, Relationship.label_congr same.symm⟩
  exact ⟨forward regrouped, forward regrouped.symm⟩

/-- Attributes that are the same but for their places are counterparts. -/
theorem eq_renumber {a b : Attribute} (aMem : a ∈ d.attributes) (bMem : b ∈ e.attributes)
    (same : a.unplaced = b.unplaced) : b = a.renumber (matching d e) := by
  have place : (matching d e).attributeAt a.index = b.index :=
    counterpart_eq regrouped.left.labelledAttributes regrouped.right.labelledAttributes aMem bMem
      (Attribute.label_congr same)
  rw [Attribute.renumber, place]
  exact Attribute.eq_of_unplaced same

theorem eq_renumber_relationship {r s : Relationship} (rMem : r ∈ d.relationships)
    (sMem : s ∈ e.relationships) (same : r.unplaced = s.unplaced) :
    s = r.renumber (matching d e) := by
  have place : (matching d e).relationshipAt r.index = s.index :=
    counterpart_eq regrouped.left.labelledRelationships regrouped.right.labelledRelationships rMem
      sMem (Relationship.label_congr same)
  rw [Relationship.renumber, place]
  exact Relationship.eq_of_unplaced same

theorem owned_eq (i : Nat) : e.attributes.filter (·.entity == i) =
    (d.attributes.filter (·.entity == i)).map (·.renumber (matching d e)) :=
  eq_map_of_map_eq (fun _ aMem _ bMem => regrouped.eq_renumber (List.mem_of_mem_filter aMem)
    (List.mem_of_mem_filter bMem)) (regrouped.attributes_eq i)

/-- What is regrouped is renumbered. -/
theorem renumbered : Renumbered (matching d e) d e where
  attributes := bijOn_counterpart regrouped.left.labelledAttributes
    regrouped.right.labelledAttributes regrouped.attributeLabels
  relationships := bijOn_counterpart regrouped.left.labelledRelationships
    regrouped.right.labelledRelationships regrouped.relationshipLabels
  entities := by
    refine eq_map_of_map_eq (fun x xMem y yMem same => ?_) regrouped.heads
    have listed : y.attributeIds = x.attributeIds.map (matching d e).attributeAt := by
      rw [regrouped.right.placed.listed y yMem, regrouped.left.placed.listed x xMem,
        show y.index = x.index from (congrArg Entity.index same).symm, regrouped.owned_eq]
      simp only [List.map_map]
      rfl
    obtain ⟨index, name, description, attributeIds, declared, line⟩ := x
    obtain ⟨index', name', description', attributeIds', declared', line'⟩ := y
    simp only [Entity.unlisted, Entity.mk.injEq, true_and] at same
    simp only at listed
    simp [Entity.renumber, listed, same]
  explicit := by
    intro i
    rw [attributesOf_eq_filter regrouped.left.placed, attributesOf_eq_filter regrouped.right.placed,
      regrouped.owned_eq]
  outgoing := fun i => eq_map_of_map_eq
    (fun _ rMem _ sMem => regrouped.eq_renumber_relationship (List.mem_of_mem_filter rMem)
      (List.mem_of_mem_filter sMem)) (regrouped.related i)

end Regrouped

namespace Renumbered

variable {n : Renumbering} (renumbered : Renumbered n d e)

include renumbered

theorem derivableFrom (i : Nat) : Derivation.derivableFrom e.relationships i =
    (Derivation.derivableFrom d.relationships i).map (·.renumber n) := by
  have outgoing (d : Draft) : Derivation.derivableFrom d.relationships i =
      (d.relationships.filter (·.source == i)).filter (·.derivable) := by
    rw [Derivation.derivableFrom, List.filter_filter]
  rw [outgoing, outgoing, renumbered.outgoing, List.filter_map]
  rfl

end Renumbered

end Draft

end FactModel
