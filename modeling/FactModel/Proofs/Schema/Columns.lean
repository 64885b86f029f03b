import FactModel.Proofs.Text.Identifiers
import FactModel.Schema.Mapping

/-!
# Columns of a mapped graph

The name of a column is plain, whatever the names of the entities and attributes that it is made
from.  A column stores an attribute of the entity whose table it is in, or none at all,
and it may be empty just when the attribute that it stores may be missing.
-/

namespace FactModel

theorem Attribute.nullable_eq_false_iff {a : Attribute} :
    a.nullable = false ↔ a.required = true ∨ a.identifying = true := by
  rw [nullable, Bool.not_eq_false', Bool.or_eq_true]

namespace Mapping

open Name (IsPlain)

/-- What a column in the table of an entity is. -/
structure ColumnSound (g : Graph) (entity : Nat) (c : Column) : Prop where
  plain : IsPlain c.name
  stores : ∀ i, c.attr = some i →
    ∃ a ∈ g.attributesOf entity, a.index = i ∧ c.nullable = a.nullable

theorem ColumnSound.solid {g : Graph} {entity : Nat} {c : Column} (sound : ColumnSound g entity c) :
    Name.Solid c.name :=
  sound.plain.solid

theorem isPlain_keyName (entity : String) : IsPlain (keyName entity) :=
  (Name.isPlain_identifier entity).append (by decide)

theorem isPlain_reverseName (g : Graph) (r : Relationship) : IsPlain (reverseName g r) := by
  unfold reverseName
  extract_lets name
  split
  · exact IsPlain.append (by decide) (isPlain_keyName _)
  · exact isPlain_keyName _

section

variable {g : Graph} {entity : Nat}

theorem columnSound_primaryKey : ColumnSound g entity (primaryKey g entity) := by
  unfold primaryKey
  split
  · next a found =>
    have identifying : a.identifying = true := List.find?_some found
    refine ⟨Name.isPlain_identifier _, fun i same => ?_⟩
    refine ⟨a, List.mem_of_find?_eq_some found, Option.some.inj same, ?_⟩
    exact (Attribute.nullable_eq_false_iff.mpr (.inr identifying)).symm
  · exact ⟨isPlain_keyName _, by simp⟩

theorem columnSound_keyColumn {name : String} (plain : IsPlain name) (target : Nat)
    (nullable : Bool) : ColumnSound g entity (keyColumn g target name nullable none) :=
  ⟨plain, by simp [keyColumn]⟩

/-- Columns stay sound when a sound one is added. -/
theorem columns_concat {cs : List Column} {c : Column} (sound : ∀ b ∈ cs, ColumnSound g entity b)
    (new : ColumnSound g entity c) : ∀ b ∈ cs ++ [c], ColumnSound g entity b := by
  intro b mem
  rcases List.mem_append.mp mem with old | last
  · exact sound b old
  · rw [List.mem_singleton.mp last]
    exact new

theorem columns_add {l : Layout} {a : Attribute} (mem : a ∈ g.attributesOf entity)
    (sound : ∀ c ∈ l.columns, ColumnSound g entity c) :
    ∀ c ∈ (l.add g entity a).columns, ColumnSound g entity c := by
  have own (i : Nat) (same : some a.index = some i) :
      ∃ b ∈ g.attributesOf entity, b.index = i ∧ a.nullable = b.nullable :=
    ⟨a, mem, Option.some.inj same, rfl⟩
  unfold Layout.add
  split
  · exact columns_concat sound columnSound_primaryKey
  · split
    · next target _ =>
      extract_lets name l'
      simp only [l']
      split
      · exact sound
      · exact columns_concat sound ⟨isPlain_keyName _, own⟩
    · extract_lets name
      split
      · exact sound
      · exact columns_concat sound ⟨Name.isPlain_identifier _, own⟩

theorem columns_addShadowed {l : Layout} (r : Relationship)
    (sound : ∀ c ∈ l.columns, ColumnSound g entity c) :
    ∀ c ∈ (l.addShadowed g r).columns, ColumnSound g entity c := by
  unfold Layout.addShadowed
  split
  · exact sound
  · exact columns_concat sound
      (columnSound_keyColumn ((Name.isPlain_identifier _).append (by decide)) ..)

theorem columns_addReverse {t : Table} (r : Relationship)
    (sound : ∀ c ∈ t.columns, ColumnSound g t.entity c) :
    ∀ c ∈ (addReverse g r t).columns, ColumnSound g (addReverse g r t).entity c := by
  unfold addReverse
  extract_lets name isShared columns
  split
  · exact sound
  · simp only [columns]
    split
    · exact sound
    · exact columns_concat sound (columnSound_keyColumn (isPlain_reverseName g r) ..)

theorem columns_tableOf (g : Graph) (entity : Nat) :
    ∀ c ∈ (tableOf g entity).columns, ColumnSound g entity c := by
  refine List.foldlRecOn (motive := fun l : Layout => ∀ c ∈ l.columns, ColumnSound g entity c)
    _ _ ?_ fun l sound r _ => columns_addShadowed r sound
  refine List.foldlRecOn (motive := fun l : Layout => ∀ c ∈ l.columns, ColumnSound g entity c)
    _ _ ?_ fun l sound a mem => columns_add mem sound
  intro c mem
  simp only at mem
  split at mem
  · rw [List.mem_singleton.mp mem]
    exact columnSound_primaryKey
  · contradiction

end

/-! ## All tables -/

/-- What holds of the tables of entities, and still holds when a relationship to many is laid out,
holds of all tables. -/
theorem forall_mem_ofGraph {g : Graph} {P : Table → Prop}
    (made : ∀ e ∈ g.entities, P (tableOf g e.index))
    (reversed : ∀ r ∈ toMany g, ∀ t, P t → P (addReverse g r t)) :
    ∀ t ∈ (Schema.ofGraph g).tables, P t := by
  refine List.foldlRecOn (motive := fun ts : List Table => ∀ t ∈ ts, P t) _ _ ?_
    fun ts all r rMem t tMem => ?_
  · intro t tMem
    obtain ⟨e, eMem, rfl⟩ := List.mem_map.mp tMem
    exact made e eMem
  · obtain ⟨i, found⟩ := List.mem_iff_getElem?.mp tMem
    rw [List.getElem?_modify, Option.map_eq_map, Option.map_eq_some_iff] at found
    obtain ⟨old, oldFound, rfl⟩ := found
    have before := all old (List.mem_of_getElem? oldFound)
    split
    · exact reversed r rMem old before
    · exact before

/-- All columns of all tables are sound. -/
theorem columnSound_of_mem {g : Graph} {t : Table} (tMem : t ∈ (Schema.ofGraph g).tables)
    {c : Column} (mem : c ∈ t.columns) : ColumnSound g t.entity c :=
  forall_mem_ofGraph (P := fun t => ∀ c ∈ t.columns, ColumnSound g t.entity c)
    (fun e _ => columns_tableOf g e.index) (fun r _ _ sound => columns_addReverse r sound)
    t tMem c mem

end Mapping

end FactModel
