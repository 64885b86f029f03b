import FactModel.Keyed
import FactModel.Proofs.Text.Keys
import Mathlib.Data.List.Induction
import Mathlib.Data.List.Nodup
import Mathlib.Data.List.Perm.Basic

/-!
# What maps keep

A map has each of its keys once.  Entries whose keys are distinct already are all kept, in their
order, and each is found under its key.
-/

namespace FactModel.Keyed

variable {κ α : Type} [DecidableEq κ]

theorem put_of_not_mem {key : κ} {value : α} {entries : List (κ × α)}
    (new : key ∉ entries.map (·.1)) : put key value entries = entries ++ [(key, value)] := by
  induction entries with
  | nil => rfl
  | cons head rest ih =>
    rw [List.map_cons, List.mem_cons, not_or] at new
    rw [put, if_neg (Ne.symm new.1), ih new.2, List.cons_append]

theorem keys_put_of_mem {key : κ} {value : α} {entries : List (κ × α)}
    (there : key ∈ entries.map (·.1)) : (put key value entries).map (·.1) = entries.map (·.1) := by
  induction entries with
  | nil => contradiction
  | cons head rest ih =>
    rw [put]
    split
    · next same => rw [List.map_cons, List.map_cons, same]
    · next differ =>
      have later := (List.mem_cons.mp there).resolve_left (Ne.symm differ)
      rw [List.map_cons, List.map_cons, ih later]

/-- Putting a value under a key keeps the keys distinct. -/
theorem nodup_keys_put {key : κ} {value : α} {entries : List (κ × α)}
    (nodup : (entries.map (·.1)).Nodup) : ((put key value entries).map (·.1)).Nodup := by
  by_cases there : key ∈ entries.map (·.1)
  · rwa [keys_put_of_mem there]
  · rw [put_of_not_mem there, List.map_append]
    exact List.concat_eq_append ▸ List.Nodup.concat there nodup

theorem nodup_keys_ofList (entries : List (κ × α)) : ((ofList entries).map (·.1)).Nodup := by
  induction entries using List.reverseRecOn with
  | nil => exact List.nodup_nil
  | append_singleton front last ih =>
    rw [ofList, List.foldl_append]
    exact nodup_keys_put ih

theorem ofList_eq_self {entries : List (κ × α)} (nodup : (entries.map (·.1)).Nodup) :
    ofList entries = entries := by
  induction entries using List.reverseRecOn with
  | nil => rfl
  | append_singleton front last ih =>
    rw [List.map_append, List.nodup_append] at nodup
    obtain ⟨first, -, apart⟩ := nodup
    have step : ofList (front ++ [last]) = put last.1 last.2 (ofList front) :=
      List.foldl_append
    rw [step, ih first]
    exact put_of_not_mem fun there => apart last.1 there last.1 (by simp) rfl

/-- Under distinct keys a value is found under its own one. -/
theorem get?_eq_some_iff {entries : List (κ × α)} (nodup : (entries.map (·.1)).Nodup) {key : κ}
    {value : α} : get? key entries = some value ↔ (key, value) ∈ entries := by
  rw [get?, Option.map_eq_some_iff]
  constructor
  · rintro ⟨⟨other, found⟩, isFound, rfl⟩
    obtain rfl := eq_of_beq (List.find?_some isFound :)
    exact List.mem_of_find?_eq_some isFound
  · exact fun mem => ⟨_, find?_of_nodup_map nodup mem rfl, rfl⟩

/-- It does not matter for what is found under distinct keys in which order they are. -/
theorem get?_eq_of_perm {entries entries' : List (κ × α)} (perm : entries.Perm entries')
    (nodup : (entries.map (·.1)).Nodup) (key : κ) : get? key entries = get? key entries' := by
  have nodup' := (perm.map (·.1)).nodup_iff.mp nodup
  refine Option.ext fun value => ?_
  rw [get?_eq_some_iff nodup, get?_eq_some_iff nodup', perm.mem_iff]

end FactModel.Keyed
