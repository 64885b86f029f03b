import FactModel.Proofs.Graph.Ruling
import FactModel.Proofs.Graph.Soundness
import FactModel.Proofs.Schema.Columns

/-!
# How far the rules on attributes reach

The rules on attributes are checked last, when attributes have been derived already, and they reach
the schema all the same: a column is never empty just when a rule says so of the attribute that it
stores, or when that attribute identifies its entity.
-/

namespace FactModel

/-- What the rules on attributes come to in a graph and in its schema.

* A rule names an explicit attribute of its entity as it is written or else, only where no explicit
  one goes by that name, a derived one.
* An explicit attribute is required just when a rule says that it is never missing, and may be
  missing when it is neither required nor identifying.
* A column that stores an attribute is never empty just when the attribute is required or
  identifying. -/
structure Graph.Obliged (g : Graph) : Prop where
  explicit : ∀ c ∈ g.constraints, ∀ rule attr, c.demand = .onAttribute rule attr false →
    ∃ a ∈ g.attributesOf c.entity, a.name = attr
  derived : ∀ c ∈ g.constraints, ∀ rule attr, c.demand = .onAttribute rule attr true →
    (∃ a ∈ g.derivedOf c.entity, a.name = attr) ∧
      ∀ a ∈ g.attributesOf c.entity, Name.key a.name ≠ Name.key attr
  required : ∀ a ∈ g.attributes, a.required = true ↔ ∃ c ∈ g.constraints,
    c.entity = a.entity ∧ c.demand = .onAttribute .notNull a.name false
  nullable : ∀ a ∈ g.attributes,
    a.nullable = true ↔ a.required = false ∧ a.identifying = false
  stored : ∀ t ∈ (Schema.ofGraph g).tables, ∀ c ∈ t.columns, ∀ i, c.attr = some i →
    ∃ a, g.attributes[i]? = some a ∧ a.entity = t.entity ∧
      (c.nullable = false ↔ a.required = true ∨ a.identifying = true)

/-- The rules of every model reach its schema, and nothing else does. -/
theorem obliged_of_compile {text : String} {g : Graph} (compiles : compile text = .ok g) :
    g.Obliged := by
  obtain ⟨doc, -, compiled⟩ := compiled_of_compile compiles
  have indexed := compiled.wellFormed.placed.attributeIndex
  constructor
  · intro c mem rule attr demand
    have grounds := grounds_of_compile compiles c mem
    rw [Draft.Grounds, demand] at grounds
    exact grounds
  · intro c mem rule attr demand
    refine ⟨?_, unspelled_of_compile compiles c mem rule attr demand⟩
    have grounds := grounds_of_compile compiles c mem
    rw [Draft.Grounds, demand] at grounds
    obtain ⟨a, aMem, owner, named⟩ := grounds
    exact ⟨a, List.mem_filter.mpr ⟨aMem, beq_iff_eq.mpr owner⟩, named⟩
  · exact fun a mem => required_iff_of_compile compiles mem
  · intro a _
    simp [Attribute.nullable]
  · intro t tMem c mem i stores
    obtain ⟨a, aHad, rfl, same⟩ := (Mapping.columnSound_of_mem tMem mem).stores i stores
    obtain ⟨aMem, owner⟩ := compiled.mem_attributesOf.mp aHad
    refine ⟨a, indexed.getElem? aMem, owner, ?_⟩
    rw [same]
    exact Attribute.nullable_eq_false_iff

/-- A rule makes the column of a reference one that is never empty, and one on a derived attribute
makes no column so. -/
theorem obliged_through_reference : ∃ g,
    compile ("**A**\n- A is identified by its Code.\n- A has a Note.\n- A has a **B**.\n" ++
      "- A must have a b.\n- A must have a B Name.\n**B**\n- B has a Name.\n") = .ok g ∧
    g.constraints.map (·.demand) =
      [.onAttribute .notNull "B" false, .onAttribute .notNull "B Name" true] ∧
    (Schema.ofGraph g).tables.map (fun t => t.columns.map fun c => (c.name, c.nullable)) =
      [[("code", false), ("note", true), ("b_id", false)], [("b_id", false), ("name", true)]] ∧
    g.Obliged := by
  have passes : compilesTo
      ("**A**\n- A is identified by its Code.\n- A has a Note.\n- A has a **B**.\n" ++
        "- A must have a b.\n- A must have a B Name.\n**B**\n- B has a Name.\n")
      (fun g => decide (g.constraints.map (·.demand) =
          [.onAttribute .notNull "B" false, .onAttribute .notNull "B Name" true] ∧
        (Schema.ofGraph g).tables.map (fun t => t.columns.map fun c => (c.name, c.nullable)) =
          [[("code", false), ("note", true), ("b_id", false)],
            [("b_id", false), ("name", true)]])) = true := by
    decide +kernel
  obtain ⟨g, compiles, shown⟩ := of_compilesTo passes
  obtain ⟨demands, columns⟩ := of_decide_eq_true shown
  exact ⟨g, compiles, demands, columns, obliged_of_compile compiles⟩

end FactModel
