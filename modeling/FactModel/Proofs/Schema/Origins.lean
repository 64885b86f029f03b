import FactModel.Proofs.Schema.Columns
import FactModel.Proofs.Schema.Keys

/-!
# Where the columns of a table come from

A column is the primary key, or stores a plain attribute, or was made for a foreign key.  A plain
attribute gets a column only while its name is free, so that its column is the first of that name.
-/

namespace FactModel

namespace Mapping

/-! ## Where columns come from -/

/-- A column that was made for a foreign key. -/
structure MadeFor (g : Graph) (k : ForeignKey) (c : Column) : Prop where
  role : c.role = .foreignKey
  name : k.column = c.name
  made : ∃ r ∈ g.relationships, r.index = k.relationship ∧
    c.type = (primaryKey g r.referred).type ∧ ∀ i, c.attr = some i → r.derivable = true ∧
      ∃ a ∈ g.attributesOf r.source, a.index = i ∧ a.references = some r.target

/-- What the columns of a table come from: the primary key, a plain attribute, or a foreign key of
the table. -/
inductive Origin (g : Graph) (entity : Nat) (keys : List ForeignKey) (c : Column) : Prop where
  | primary (same : c = primaryKey g entity)
  | plain (role : c.role = .plain) (a : Attribute) (mem : a ∈ g.attributesOf entity)
    (stores : c.attr = some a.index) (references : a.references = none)
  | key (k : ForeignKey) (mem : k ∈ keys) (made : MadeFor g k c)

/-- How the columns of a table are arranged: each has an origin, and a plain attribute comes before
all other columns of its name. -/
structure Arranged (g : Graph) (entity : Nat) (columns : List Column) (keys : List ForeignKey) :
    Prop where
  origin : ∀ c ∈ columns, Origin g entity keys c
  first : columns.Pairwise fun b c => c.role = .plain → b.name ≠ c.name

section Arranged

variable {g : Graph} {entity : Nat} {columns : List Column} {keys keys' : List ForeignKey}

theorem Origin.mono {c : Column} (origin : Origin g entity keys c)
    (kept : ∀ k ∈ keys, ∃ k' ∈ keys', k'.column = k.column ∧ k'.relationship = k.relationship) :
    Origin g entity keys' c := by
  cases origin with
  | primary same => exact .primary same
  | plain role a mem stores references => exact .plain role a mem stores references
  | key k mem made =>
    obtain ⟨k', mem', column, relationship⟩ := kept k mem
    exact .key k' mem' ⟨made.role, column.trans made.name, relationship ▸ made.made⟩

theorem Arranged.mono (arranged : Arranged g entity columns keys)
    (kept : ∀ k ∈ keys, ∃ k' ∈ keys', k'.column = k.column ∧ k'.relationship = k.relationship) :
    Arranged g entity columns keys' :=
  ⟨fun c mem => (arranged.origin c mem).mono kept, arranged.first⟩

/-- A column may be added that is not plain, or whose name is free. -/
theorem Arranged.concat (arranged : Arranged g entity columns keys) {c : Column}
    (origin : Origin g entity keys c)
    (free : c.role = .plain → ∀ b ∈ columns, b.name ≠ c.name) :
    Arranged g entity (columns ++ [c]) keys := by
  refine ⟨?_, ?_⟩
  · intro b mem
    rcases List.mem_append.mp mem with old | new
    · exact arranged.origin b old
    · rw [List.mem_singleton.mp new]
      exact origin
  · rw [List.pairwise_append]
    refine ⟨arranged.first, List.pairwise_singleton .., ?_⟩
    intro b mem d new
    rw [List.mem_singleton.mp new]
    exact fun plain => free plain b mem

/-- A foreign key may be added together with a column made for it. -/
theorem Arranged.concat_key (arranged : Arranged g entity columns keys) {c : Column}
    {k : ForeignKey} (made : MadeFor g k c) :
    Arranged g entity (columns ++ [c]) (keys ++ [k]) := by
  have kept : Arranged g entity columns (keys ++ [k]) :=
    arranged.mono fun k mem => ⟨k, List.mem_append_left _ mem, rfl, rfl⟩
  refine kept.concat (.key k (by simp) made) fun plain => ?_
  simp [made.role] at plain

/-- A plain column is found by its name. -/
theorem Arranged.column?_eq {t : Table} (arranged : Arranged g entity t.columns keys) {c : Column}
    (mem : c ∈ t.columns) (plain : c.role = .plain) : t.column? c.name = some c := by
  obtain ⟨before, after, split⟩ := List.append_of_mem mem
  have first := arranged.first
  rw [split, List.pairwise_append] at first
  have none : before.find? (·.name == c.name) = none := by
    rw [List.find?_eq_none]
    intro b bMem same
    exact first.2.2 b bMem c List.mem_cons_self plain (eq_of_beq same)
  rw [Table.column?, split, List.find?_append, none, Option.none_or,
    List.find?_cons_of_pos (by simp)]

end Arranged

theorem role_primaryKey (g : Graph) (entity : Nat) : (primaryKey g entity).role = .primaryKey := by
  unfold primaryKey
  split <;> rfl

/-- Sharing a key changes nothing but whom it is shared by. -/
theorem map_share {α : Type} {f : ForeignKey → α}
    (same : ∀ k shared, f { k with sharedBy := shared } = f k) (isShared : ForeignKey → Bool)
    (i : Nat) (ks : List ForeignKey) : (share isShared i ks).map f = ks.map f := by
  induction ks with
  | nil => rfl
  | cons k rest ih =>
    rw [share]
    split
    · rw [List.map_cons, List.map_cons, same]
    · rw [List.map_cons, List.map_cons, ih]

section Steps

variable {g : Graph}

theorem arranged_addShadowed {entity : Nat} {l : Layout} {r : Relationship}
    (mem : r ∈ g.outgoing entity) (arranged : Arranged g entity l.columns l.keys) :
    Arranged g entity (l.addShadowed g r).columns (l.addShadowed g r).keys := by
  obtain ⟨rMem, -⟩ := mem_outgoing.mp mem
  unfold Layout.addShadowed
  split
  · exact arranged
  · next unsettled =>
    have derivable : r.derivable = true := by
      by_contra many
      exact unsettled (by simp [many])
    refine arranged.concat_key ⟨rfl, rfl, r, rMem, rfl, ?_, by simp [keyColumn]⟩
    rw [r.referred_of_derivable derivable]
    rfl

theorem arranged_addReverse {r : Relationship} (mem : r ∈ toMany g) {t : Table}
    (arranged : Arranged g t.entity t.columns t.foreignKeys) :
    Arranged g (addReverse g r t).entity (addReverse g r t).columns
      (addReverse g r t).foreignKeys := by
  obtain ⟨rMem, isMany⟩ := List.mem_filter.mp mem
  have many : r.derivable = false := by simpa [r.isToMany_iff] using isMany
  unfold addReverse
  extract_lets name isShared columns
  split
  · -- Sharing a key changes neither its column nor the relationship it was made for.
    refine arranged.mono fun k kMem => ?_
    have there := List.mem_map_of_mem (f := fun k : ForeignKey => (k.column, k.relationship)) kMem
    rw [← map_share (fun _ _ => rfl) isShared r.index, List.mem_map] at there
    obtain ⟨k', mem', same⟩ := there
    exact ⟨k', mem', congrArg Prod.fst same, congrArg Prod.snd same⟩
  · simp only [columns]
    split
    · exact arranged.mono fun k kMem => ⟨k, List.mem_append_left _ kMem, rfl, rfl⟩
    · refine arranged.concat_key ⟨rfl, rfl, r, rMem, rfl, ?_, by simp [keyColumn]⟩
      rw [r.referred_of_not_derivable many]
      rfl

end Steps

section Compiled

variable {doc : Document} {g : Graph} (compiled : Compiled doc g)

include compiled

theorem arranged_add {entity : Nat} {l : Layout} {a : Attribute} (mem : a ∈ g.attributesOf entity)
    (arranged : Arranged g entity l.columns l.keys) :
    Arranged g entity (l.add g entity a).columns (l.add g entity a).keys := by
  unfold Layout.add
  split
  · exact arranged.concat (.primary rfl) fun plain => by simp [role_primaryKey] at plain
  · split
    · next target references =>
      extract_lets name l'
      obtain ⟨aMem, rfl⟩ := compiled.mem_attributesOf.mp mem
      obtain ⟨r, rMem, derivable, source, rfl, index⟩ :=
        relationshipTo_spec compiled aMem references
      simp only [l']
      split
      · exact arranged.mono fun k kMem => ⟨k, List.mem_append_left _ kMem, rfl, rfl⟩
      · refine arranged.concat_key ⟨rfl, rfl, r, rMem, index.symm, ?_, ?_⟩
        · rw [r.referred_of_derivable derivable]
          rfl
        · intro i stores
          exact ⟨derivable, a, source ▸ mem, Option.some.inj stores, references⟩
    · next references =>
      extract_lets name
      split
      · exact arranged
      · next free =>
        refine arranged.concat (.plain rfl a mem rfl references) fun _ b bMem same => free ?_
        exact List.any_eq_true.mpr ⟨b, bMem, beq_iff_eq.mpr same⟩

theorem arranged_tableOf (entity : Nat) :
    Arranged g entity (tableOf g entity).columns (tableOf g entity).foreignKeys := by
  refine List.foldlRecOn (motive := fun l : Layout => Arranged g entity l.columns l.keys) _ _ ?_
    fun l arranged r mem => arranged_addShadowed mem arranged
  refine List.foldlRecOn (motive := fun l : Layout => Arranged g entity l.columns l.keys) _ _ ?_
    fun l arranged a mem => arranged_add compiled mem arranged
  have empty : Arranged g entity [] [] := ⟨by simp, List.Pairwise.nil⟩
  simp only
  split
  · exact empty.concat (.primary rfl) fun plain => by simp [role_primaryKey] at plain
  · exact empty

/-- The columns of all tables are arranged. -/
theorem arranged_of_mem {t : Table} (mem : t ∈ (Schema.ofGraph g).tables) :
    Arranged g t.entity t.columns t.foreignKeys :=
  forall_mem_ofGraph (P := fun t => Arranged g t.entity t.columns t.foreignKeys)
    (fun e _ => arranged_tableOf compiled e.index)
    (fun _ rMem _ arranged => arranged_addReverse rMem arranged) t mem

end Compiled

end Mapping

end FactModel
