import FactModel.Proofs.Text.Identifiers
import FactModel.Schema.Mapping
import Mathlib.Data.List.Nodup
import Mathlib.Data.List.Perm.Subperm

/-!
# Table names

A table name that is taken gets a number.  Numbered names are all different, so that among one more
of them than there are names in use some name is free: the search for a number comes to an end, and
all tables have different names.
-/

namespace FactModel.Mapping

theorem toString_injective {m n : Nat} (same : toString m = toString n) : m = n := by
  have digits : Nat.toDigits 10 m = Nat.toDigits 10 n := by
    simpa [← Nat.toList_repr] using congrArg String.toList same
  rw [← Nat.ofDigitChars_ten_toDigits (n := m), digits, Nat.ofDigitChars_ten_toDigits]

theorem numbered_injective {name : String} {m n : Nat} (same : numbered name m = numbered name n) :
    m = n := by
  refine toString_injective ?_
  simpa [numbered] using same

/-! ## Making a name free -/

/-- The name that a wanted name settles to among those in use: the wanted name itself where it is
free, or else the wanted name with the least number from two on that makes it free. -/
inductive Settles (used : List String) (name : String) : String → Prop where
  | plain (free : name ∉ used) : Settles used name name
  | numbered (taken : name ∈ used) {n : Nat} (fromTwo : 2 ≤ n) (free : numbered name n ∉ used)
      (least : ∀ m, 2 ≤ m → m < n → numbered name m ∈ used) :
      Settles used name (numbered name n)

/-- One of the first numbers, one more than names are used, makes a name free. -/
theorem exists_numbered_free (used : List String) (name : String) :
    ∃ n < used.length + 1, numbered name (n + 2) ∉ used := by
  by_contra! taken
  -- All of the numbered names are in use, and they are more than the names in use.
  have nodup : ((List.range (used.length + 1)).map fun n => numbered name (n + 2)).Nodup := by
    refine List.nodup_range.map_on fun m _ n _ same => ?_
    have := numbered_injective same
    omega
  have inUse : ((List.range (used.length + 1)).map fun n => numbered name (n + 2)) ⊆ used := by
    intro other mem
    obtain ⟨n, nMem, rfl⟩ := List.mem_map.mp mem
    exact taken n (List.mem_range.mp nMem)
  have few := (nodup.subperm inUse).length_le
  rw [List.length_map, List.length_range] at few
  omega

/-- The search for a number comes to an end, at the least one that makes the name free. -/
theorem settles_freeName (used : List String) (name : String) :
    Settles used name (freeName used name) := by
  unfold freeName
  split
  · next taken =>
    cases found : ((List.range (used.length + 1)).map (· + 2)).find? fun n =>
        !used.contains (numbered name n) with
    | none =>
      obtain ⟨n, bound, free⟩ := exists_numbered_free used name
      have missed := List.find?_eq_none.mp found (n + 2)
        (List.mem_map_of_mem (List.mem_range.mpr bound))
      simp [free] at missed
    | some n =>
      obtain ⟨free, i, bound, isNumber, earlier⟩ := List.find?_eq_some_iff_getElem.mp found
      rw [List.getElem_map, List.getElem_range] at isNumber
      simp only [Option.getD_some]
      refine .numbered (by simpa using taken) (by omega) (by simpa using free)
        fun m fromTwo less => ?_
      have sooner := earlier (m - 2) (by omega)
      rw [List.getElem_map, List.getElem_range, Nat.sub_add_cancel fromTwo] at sooner
      simpa using sooner
  · next free => exact .plain (by simpa using free)

theorem toList_numbered (name : String) (n : Nat) :
    (numbered name n).toList = name.toList ++ '_' :: (toString n).toList := by
  have parts : numbered name n = name ++ "_" ++ toString n := rfl
  simp [parts]

namespace Settles

variable {used used' : List String} {name settled : String}

/-- What a name settles to is free. -/
theorem not_mem (settles : Settles used name settled) : settled ∉ used := by
  cases settles with
  | plain free => exact free
  | numbered _ _ free _ => exact free

/-- It only matters which names are in use. -/
theorem congr (same : ∀ other, other ∈ used ↔ other ∈ used')
    (settles : Settles used name settled) : Settles used' name settled := by
  cases settles with
  | plain free => exact .plain (mt (same _).mpr free)
  | numbered taken fromTwo free least =>
    exact .numbered ((same _).mp taken) fromTwo (mt (same _).mpr free) fun m lower less =>
      (same _).mp (least m lower less)

/-- A name stays as it is just where it is free. -/
theorem eq_iff (settles : Settles used name settled) : settled = name ↔ name ∉ used := by
  cases settles with
  | plain free => exact iff_of_true rfl free
  | @numbered taken n _ _ _ =>
    refine iff_of_false (fun same => ?_) (not_not_intro taken)
    have lengths := congrArg (List.length ∘ String.toList) same
    simp [toList_numbered] at lengths

/-- A plain name settles to a plain one. -/
theorem isPlain (settles : Settles used name settled) (plain : Name.IsPlain name) :
    Name.IsPlain settled := by
  cases settles with
  | plain _ => exact plain
  | @numbered _ n _ _ _ =>
    have digits : ∀ c ∈ (toString n).toList, Name.isPlainChar c = true := by
      intro c mem
      rw [Nat.toString_eq_repr, Nat.toList_repr] at mem
      have digit : c.isDigit = true := Nat.isDigit_of_mem_toDigits (by decide) (by decide) mem
      simp [Name.isPlainChar, Char.isAlphanum, digit]
    have behind : Name.IsPlain ("_" ++ toString n) :=
      Name.IsPlain.append_chars (by decide) (by decide) digits
    have parts : Mapping.numbered name n = name ++ ("_" ++ toString n) :=
      String.toList_injective (by simp [toList_numbered])
    rw [parts]
    exact plain.append behind

/-- A number is put behind a name, so that names begin as they did. -/
theorem exists_append (settles : Settles used name settled) :
    ∃ behind : String, settled = name ++ behind := by
  cases settles with
  | plain _ => exact ⟨"", by simp⟩
  | @numbered _ n _ _ _ =>
    refine ⟨"_" ++ toString n, String.toList_injective ?_⟩
    simp [toList_numbered]

end Settles

/-- A name that is made free is free. -/
theorem freeName_not_mem (used : List String) (name : String) : freeName used name ∉ used :=
  (settles_freeName used name).not_mem

/-! ## The names of a list of entities -/

theorem length_namesFrom (used : List String) (entities : List Entity) :
    (namesFrom used entities).length = entities.length := by
  induction entities generalizing used with
  | nil => rfl
  | cons e rest ih => rw [namesFrom, List.length_cons, ih, List.length_cons]

theorem namesFrom_fresh (used : List String) (entities : List Entity) :
    (namesFrom used entities).Nodup ∧ ∀ name ∈ namesFrom used entities, name ∉ used := by
  induction entities generalizing used with
  | nil => simp [namesFrom]
  | cons e rest ih =>
    obtain ⟨nodup, fresh⟩ := ih (freeName used (tableName e.name) :: used)
    rw [namesFrom]
    refine ⟨List.nodup_cons.mpr ⟨fun mem => ?_, nodup⟩, fun name mem => ?_⟩
    · exact fresh _ mem (by simp)
    · rcases List.mem_cons.mp mem with rfl | later
      · exact freeName_not_mem used (tableName e.name)
      · exact fun inUse => fresh name later (List.mem_cons_of_mem _ inUse)

/-- The name at a position settles among the names before it. -/
theorem settles_of_getElem? {used : List String} {entities : List Entity} {i : Nat} {e : Entity}
    {name : String} (found : entities[i]? = some e)
    (named : (namesFrom used entities)[i]? = some name) :
    Settles ((namesFrom used entities).take i ++ used) (tableName e.name) name := by
  induction entities generalizing used i with
  | nil => simp at found
  | cons first rest ih =>
    rw [namesFrom] at named ⊢
    cases i with
    | zero =>
      obtain rfl := Option.some.inj found
      obtain rfl := Option.some.inj named
      exact settles_freeName used (tableName first.name)
    | succ i =>
      rw [List.getElem?_cons_succ] at found named
      refine (ih found named).congr fun other => ?_
      simp only [List.take_succ_cons, List.mem_append, List.mem_cons]
      tauto

/-- Different entities have tables of different names. -/
theorem nameOf_injective {g : Graph} {i j : Nat} (iBound : i < g.entities.length)
    (jBound : j < g.entities.length) (same : nameOf g i = nameOf g j) : i = j := by
  have nodup := (namesFrom_fresh [] g.entities).1
  have iIn : i < (tableNames g).length := by
    rw [tableNames, length_namesFrom]
    exact iBound
  have jIn : j < (tableNames g).length := by
    rw [tableNames, length_namesFrom]
    exact jBound
  have sameName : (tableNames g)[i] = (tableNames g)[j] := by
    simpa [nameOf, iIn, jIn] using same
  exact (List.Nodup.getElem_inj_iff nodup).mp sameName

end FactModel.Mapping
