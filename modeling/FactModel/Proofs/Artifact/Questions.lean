import FactModel.Artifact.Questions
import FactModel.Artifact.Statements
import FactModel.Proofs.View.Lookup

/-!
# Every question has a query

An intent that speaks of columns of a view, and gives the values that its shape calls for, has a
query over the view.  The questions about a view speak of its own columns.
-/

namespace FactModel

/-! ## Names of columns -/

namespace View

/-- The name of an attribute that a view shows means a column. -/
theorem resolve_attr {v : View} {c : ViewColumn} (mem : c ∈ v.columns) :
    ∃ b, v.resolve c.attr = .ok b := by
  have found : (v.columns.find? (Name.key ·.attr == Name.key c.attr)).isSome = true :=
    List.find?_isSome.mpr ⟨c, mem, beq_self_eq_true _⟩
  obtain ⟨b, isFound⟩ := Option.isSome_iff_exists.mp found
  unfold resolve column?
  cases v.columns.find? (·.name == c.attr) with
  | some a => exact ⟨a, rfl⟩
  | none => exact ⟨b, by rw [isFound]⟩

/-- The name of a column means a column. -/
theorem resolve_name {v : View} {c : ViewColumn} (mem : c ∈ v.columns) :
    ∃ b, v.resolve c.name = .ok b := by
  have found : (v.columns.find? (·.name == c.name)).isSome = true :=
    List.find?_isSome.mpr ⟨c, mem, beq_self_eq_true _⟩
  obtain ⟨b, isFound⟩ := Option.isSome_iff_exists.mp found
  exact ⟨b, by unfold resolve column?; rw [isFound]⟩

/-- Whether the key of a view is one of its columns. -/
def Keyed (v : View) : Prop :=
  ∃ c ∈ v.columns, v.keyColumn = some c.name

end View

/-! ## Intents -/

/-- What is needed of an intent to have a query over a view.  The attributes that it names are shown
by columns, and it gives all that its shape calls for. -/
structure Intent.Answerable (i : Intent) (v : View) : Prop where
  attr : ∀ name, i.attr = some name → ∃ c ∈ v.columns, c.attr = name
  filterAttr : ∀ name, i.filterAttr = some name → ∃ c ∈ v.columns, c.attr = name
  extreme : i.shape = .min ∨ i.shape = .max → i.attr.isSome = true
  lookup : i.shape = .lookup → i.keyValue.isSome = true
  filter : i.shape = .filter → i.filterAttr.isSome = true ∧ i.filterValue.isSome = true

namespace Intent.Answerable

variable {i : Intent} {v : View} (answerable : i.Answerable v)

include answerable

theorem filterOf_eq_ok : ∃ filter, v.filterOf i = .ok filter ∧
    (i.shape = .filter → filter.isSome = true) := by
  unfold View.filterOf
  split
  · next attr value named _ =>
    obtain ⟨c, mem, rfl⟩ := answerable.filterAttr attr named
    obtain ⟨b, resolved⟩ := View.resolve_attr mem
    exact ⟨some (View.equality b value), by rw [resolved]; rfl, fun _ => rfl⟩
  · next missing =>
    refine ⟨none, rfl, fun shape => ?_⟩
    obtain ⟨attrThere, valueThere⟩ := answerable.filter shape
    obtain ⟨attr, named⟩ := Option.isSome_iff_exists.mp attrThere
    obtain ⟨value, given⟩ := Option.isSome_iff_exists.mp valueThere
    exact absurd given (missing attr value named)

theorem selectionOf_eq_ok : ∃ selection, v.selectionOf i = .ok selection := by
  unfold View.selectionOf
  split
  · next name named =>
    obtain ⟨c, mem, rfl⟩ := answerable.attr name named
    obtain ⟨b, resolved⟩ := View.resolve_attr mem
    exact ⟨.column b.name, by rw [resolved]; rfl⟩
  · exact ⟨.all, rfl⟩

theorem keyCondition_eq_ok (keyed : v.Keyed) (shape : i.shape = .lookup) :
    ∃ key, v.keyCondition i = .ok key := by
  obtain ⟨c, mem, isKey⟩ := keyed
  obtain ⟨value, given⟩ := Option.isSome_iff_exists.mp (answerable.lookup shape)
  obtain ⟨b, resolved⟩ := View.resolve_name mem
  exact ⟨View.equality b value, by simp only [View.keyCondition, isKey, given, resolved]; rfl⟩

theorem extremeColumn_eq_ok (shape : i.shape = .min ∨ i.shape = .max) :
    ∃ c, v.extremeColumn i = .ok c := by
  obtain ⟨name, named⟩ := Option.isSome_iff_exists.mp (answerable.extreme shape)
  obtain ⟨c, mem, rfl⟩ := answerable.attr name named
  obtain ⟨b, resolved⟩ := View.resolve_attr mem
  exact ⟨b, by rw [View.extremeColumn, named]; exact resolved⟩

/-- An intent of which all is there has a query. -/
theorem ofIntent_eq_ok (keyed : v.Keyed) : ∃ planned, Planned.ofIntent i v = .ok planned := by
  obtain ⟨filter, filtered, there⟩ := answerable.filterOf_eq_ok
  unfold Planned.ofIntent
  rw [filtered]
  cases shape : i.shape with
  | count => exact ⟨_, rfl⟩
  | min =>
    obtain ⟨c, extreme⟩ := answerable.extremeColumn_eq_ok (.inl shape)
    exact ⟨_, by rw [extreme]; rfl⟩
  | max =>
    obtain ⟨c, extreme⟩ := answerable.extremeColumn_eq_ok (.inr shape)
    exact ⟨_, by rw [extreme]; rfl⟩
  | lookup =>
    obtain ⟨selection, selected⟩ := answerable.selectionOf_eq_ok
    obtain ⟨key, condition⟩ := answerable.keyCondition_eq_ok keyed shape
    exact ⟨_, by rw [selected, condition]; rfl⟩
  | filter =>
    obtain ⟨selection, selected⟩ := answerable.selectionOf_eq_ok
    obtain ⟨e, isFilter⟩ := Option.isSome_iff_exists.mp (there shape)
    exact ⟨_, by rw [selected, isFilter]; rfl⟩

end Intent.Answerable

/-! ## Questions -/

namespace Question

/-- An intent that asks for the attribute of a column, besides what its shape calls for. -/
theorem answerable_of_attr {v : View} {c : ViewColumn} (mem : c ∈ v.columns) {shape : Shape}
    (name : String) {keyValue : Option String} (lookup : shape = .lookup → keyValue.isSome = true)
    (noFilter : shape ≠ .filter) : Intent.Answerable
      { Intent.plain shape name with attr := some c.attr, keyValue } v where
  attr := by
    intro attr same
    exact ⟨c, mem, Option.some.inj same⟩
  filterAttr := by simp [Intent.plain]
  extreme := fun _ => rfl
  lookup := lookup
  filter := fun isFilter => absurd isFilter noFilter

theorem intent_of_mem_extremes {name : String} {c : ViewColumn} {q : Question}
    (mem : q ∈ extremes name c) :
    q.intent = { Intent.plain .max name with attr := some c.attr } ∨
      q.intent = { Intent.plain .min name with attr := some c.attr } := by
  unfold extremes at mem
  split at mem
  · simp only [List.mem_cons, List.not_mem_nil, or_false] at mem
    rcases mem with rfl | rfl
    · exact .inl rfl
    · exact .inr rfl
  · rw [List.mem_singleton.mp mem]
    exact .inl rfl
  · contradiction

/-- All questions about a view can be answered. -/
theorem answerable_of_mem {g : Graph} {v : View} {q : Question} (mem : q ∈ ofView g v) :
    q.intent.Answerable v := by
  unfold ofView at mem
  extract_lets name at mem
  rcases List.mem_cons.mp mem with rfl | ofColumns
  · constructor <;> simp [Intent.plain]
  · obtain ⟨c, cMem, ofC⟩ := List.mem_flatMap.mp ofColumns
    unfold ofColumn at ofC
    split at ofC
    · contradiction
    · extract_lets lookups at ofC
      rw [List.mem_append, List.mem_append] at ofC
      rcases ofC with (extreme | looked) | filtered
      · rcases intent_of_mem_extremes extreme with isMax | isMin
        · rw [isMax]
          exact answerable_of_attr cMem name (by simp) (by simp)
        · rw [isMin]
          exact answerable_of_attr cMem name (by simp) (by simp)
      · have shape : ∃ value, q.intent =
            { Intent.plain .lookup name with attr := some c.attr, keyValue := some value } := by
          simp only [lookups] at looked
          split at looked
          · next a _ =>
            obtain ⟨value, -, rfl⟩ := Option.map_eq_some_iff.mp (Option.mem_toList.mp looked)
            exact ⟨value, rfl⟩
          · contradiction
        obtain ⟨value, isLookup⟩ := shape
        rw [isLookup]
        exact answerable_of_attr cMem name (fun _ => rfl) (by simp)
      · obtain ⟨value, -, rfl⟩ := Option.map_eq_some_iff.mp (Option.mem_toList.mp filtered)
        constructor
        · simp [filter, Intent.plain]
        · intro attr same
          exact ⟨c, cMem, Option.some.inj same⟩
        · simp [filter, Intent.plain]
        · simp [filter, Intent.plain]
        · exact fun _ => ⟨rfl, rfl⟩

theorem line_eq_ok {g : Graph} {v : View} (keyed : v.Keyed) {q : Question}
    (mem : q ∈ ofView g v) (d : Dialect) : ∃ text, line d v q = .ok text := by
  obtain ⟨planned, isPlanned⟩ := (answerable_of_mem mem).ofIntent_eq_ok keyed
  exact ⟨_, by rw [line, isPlanned]; rfl⟩

end Question

namespace View

section Views

variable {doc : Document} {g : Graph} (compiled : Compiled doc g)

include compiled

/-- Every entity has a view, whose key is one of its columns. -/
theorem exists_keyed {entity : Nat} (inGraph : entity < g.entities.length) :
    ∃ v, ofEntity g (Schema.ofGraph g) entity = .ok v ∧ v.Keyed := by
  obtain ⟨t, -, table, sound, -⟩ := Mapping.tableOf_eq_ok compiled inGraph
  obtain ⟨v, viewed, laid⟩ := laid_ofEntity compiled table
  obtain ⟨extra, columns, -⟩ := laid.columns
  refine ⟨v, viewed, shownColumn g (Mapping.primaryKey g entity), ?_, ?_⟩
  · rw [columns]
    exact List.mem_append_left _ (List.mem_map_of_mem sound.stored)
  · rw [keyColumn_ofEntity compiled table viewed, sound.primary]
    rfl

/-- All views can be laid out. -/
theorem all_eq_ok : ∃ views, all g (Schema.ofGraph g) = .ok views ∧ ∀ v ∈ views, v.Keyed := by
  refine exists_mapM_eq_ok_iff.mpr fun e mem => ?_
  exact exists_keyed compiled (compiled.wellFormed.placed.entityIndex.lt_length mem)

end Views

end View

namespace Artifact

variable {doc : Document} {g : Graph} (compiled : Compiled doc g) (d : Dialect)

include compiled

/-- Views can always be made. -/
theorem views_eq_ok : ∃ text, Artifact.views g (Schema.ofGraph g) d = .ok text := by
  obtain ⟨views, laid, -⟩ := View.all_eq_ok compiled
  exact ⟨_, by rw [Artifact.views, laid]; rfl⟩

/-- Questions can always be answered. -/
theorem questions_eq_ok : ∃ text, questions g (Schema.ofGraph g) d = .ok text := by
  obtain ⟨views, laid, keyed⟩ := View.all_eq_ok compiled
  obtain ⟨lines, made, -⟩ : ∃ lines, (views.mapM fun v =>
      (Question.ofView g v).mapM (Question.line d v)) = .ok lines ∧ ∀ l ∈ lines, True := by
    refine exists_mapM_eq_ok_iff.mpr fun v mem => ?_
    obtain ⟨texts, made⟩ := exists_mapM_eq_ok fun q qMem =>
      Question.line_eq_ok (keyed v mem) qMem d
    exact ⟨texts, made, trivial⟩
  exact ⟨_, by simp only [questions, laid, Except.mapError, bind, Except.bind, made]; rfl⟩

end Artifact

end FactModel
