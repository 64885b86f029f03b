import FactModel.Schema.Mapping
import Mathlib.Data.List.Nodup
import Mathlib.Data.List.Perm.Basic

/-!
# What foreign keys stand for

A key stands for the relationship that it was made for and for those that share it.  The positions
that all keys together stand for are a ledger of the mapping: laying out a relationship adds its
position once, and where the ledger has none twice, it tells how many keys back a relationship.
-/

namespace FactModel

/-- The entity whose table holds the key for a relationship: the source of one to one row, the
target of one to many. -/
def Relationship.holder (r : Relationship) : Nat :=
  if r.derivable then r.source else r.target

/-- The entity that the key for a relationship refers to. -/
def Relationship.referred (r : Relationship) : Nat :=
  if r.derivable then r.target else r.source

namespace Relationship

variable {r : Relationship}

theorem holder_of_derivable (derivable : r.derivable = true) : r.holder = r.source :=
  if_pos derivable

theorem referred_of_derivable (derivable : r.derivable = true) : r.referred = r.target :=
  if_pos derivable

theorem holder_of_not_derivable (many : r.derivable = false) : r.holder = r.target := by
  simp [holder, many]

theorem referred_of_not_derivable (many : r.derivable = false) : r.referred = r.source := by
  simp [referred, many]

/-- A relationship is to many just when it is not to one. -/
theorem isToMany_iff : (r.cardinality == .oneToMany) = !r.derivable := by
  rw [derivable]
  cases r.cardinality <;> rfl

end Relationship

namespace ForeignKey

/-- The positions of the relationships that a key stands for. -/
def stands (k : ForeignKey) : List Nat :=
  k.relationship :: k.sharedBy

theorem backs_iff {k : ForeignKey} {i : Nat} : k.backs i = true ↔ i ∈ k.stands := by
  simp [backs, stands]

/-- The positions that keys stand for, key by key. -/
def standing (ks : List ForeignKey) : List Nat :=
  ks.flatMap (·.stands)

@[simp]
theorem standing_append (ks ks' : List ForeignKey) :
    standing (ks ++ ks') = standing ks ++ standing ks' :=
  List.flatMap_append

@[simp]
theorem standing_nil : standing [] = [] :=
  rfl

@[simp]
theorem standing_cons (k : ForeignKey) (ks : List ForeignKey) :
    standing (k :: ks) = k.stands ++ standing ks :=
  rfl

theorem mem_standing {ks : List ForeignKey} {i : Nat} :
    i ∈ standing ks ↔ ∃ k ∈ ks, k.backs i = true := by
  simp only [standing, List.mem_flatMap, backs_iff]

/-- As many keys back a relationship as stand for it, where none stands for one twice. -/
theorem countP_backs {ks : List ForeignKey} (nodup : (standing ks).Nodup) (i : Nat) :
    ks.countP (·.backs i) = (standing ks).count i := by
  induction ks with
  | nil => rfl
  | cons k rest ih =>
    obtain ⟨ownNodup, restNodup, -⟩ := List.nodup_append.mp nodup
    rw [List.countP_cons, standing_cons, List.count_append, ih restNodup,
      ownNodup.count, Nat.add_comm]
    simp only [backs_iff]

end ForeignKey

namespace Mapping

open ForeignKey

/-- A key made for a relationship stands for it alone. -/
@[simp]
theorem stands_foreignKey (g : Graph) (target relationship : Nat) (column : String) :
    (foreignKey g target relationship column).stands = [relationship] :=
  rfl

/-- Sharing a key enters one position in the ledger. -/
theorem standing_share {isShared : ForeignKey → Bool} {ks : List ForeignKey}
    (some : ks.any isShared = true) (i : Nat) :
    (standing (share isShared i ks)).Perm (i :: standing ks) := by
  induction ks with
  | nil => contradiction
  | cons k rest ih =>
    rw [share]
    split
    · have added : ({ k with sharedBy := k.sharedBy ++ [i] } : ForeignKey).stands =
          k.stands ++ [i] := rfl
      rw [standing_cons, standing_cons, added, List.append_assoc, List.singleton_append]
      exact List.perm_middle
    · next other =>
      have later : rest.any isShared = true := by simpa [other] using some
      rw [standing_cons, standing_cons]
      exact ((ih later).append_left k.stands).trans List.perm_middle

/-- A key that is there after one was shared was there before, or it is the one that is shared. -/
theorem mem_share {isShared : ForeignKey → Bool} {i : Nat} {ks : List ForeignKey} {k : ForeignKey}
    (mem : k ∈ share isShared i ks) : k ∈ ks ∨
      ∃ old ∈ ks, isShared old = true ∧ k = { old with sharedBy := old.sharedBy ++ [i] } := by
  induction ks with
  | nil => contradiction
  | cons first rest ih =>
    rw [share] at mem
    split at mem
    · next chosen =>
      rcases List.mem_cons.mp mem with rfl | later
      · exact .inr ⟨first, by simp, chosen, rfl⟩
      · exact .inl (List.mem_cons_of_mem _ later)
    · rcases List.mem_cons.mp mem with rfl | later
      · exact .inl (by simp)
      · rcases ih later with there | ⟨old, oldMem, chosen, changed⟩
        · exact .inl (List.mem_cons_of_mem _ there)
        · exact .inr ⟨old, List.mem_cons_of_mem _ oldMem, chosen, changed⟩

/-- Laying out a relationship to many enters its position in the ledger of the table. -/
theorem standing_addReverse (g : Graph) (r : Relationship) (t : Table) :
    (standing (addReverse g r t).foreignKeys).Perm (r.index :: standing t.foreignKeys) := by
  unfold addReverse
  extract_lets name isShared columns
  split
  · next some => exact standing_share some r.index
  · rw [standing_append]
    exact (List.perm_append_singleton r.index _)

/-- What is laid out in one table is laid out in the schema. -/
theorem standing_modify {ts : List Table} {i j : Nat} (bound : i < ts.length) {f : Table → Table}
    (enters : ∀ t, (standing (f t).foreignKeys).Perm (j :: standing t.foreignKeys)) :
    (standing ((ts.modify i f).flatMap (·.foreignKeys))).Perm
      (j :: standing (ts.flatMap (·.foreignKeys))) := by
  induction ts generalizing i with
  | nil => contradiction
  | cons t rest ih =>
    cases i with
    | zero =>
      rw [List.modify_zero_cons, List.flatMap_cons, List.flatMap_cons, standing_append,
        standing_append]
      exact (enters t).append_right _
    | succ i =>
      rw [List.modify_succ_cons, List.flatMap_cons, List.flatMap_cons, standing_append,
        standing_append]
      exact ((ih (Nat.lt_of_succ_lt_succ bound)).append_left _).trans List.perm_middle

end Mapping

end FactModel
