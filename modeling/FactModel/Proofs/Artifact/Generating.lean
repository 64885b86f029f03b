import FactModel.Artifact.Run
import FactModel.Proofs.Artifact.Checks
import FactModel.Proofs.Artifact.Questions
import FactModel.Proofs.Schema.Circles

/-!
# Which artifacts of a graph can be made

Whatever a generator looks up in a compiled graph, in its schema and in its views is there.  So there
are two reasons only for which an artifact cannot be made: tables that refer to each other in a
circle, and a rule on an attribute that has no column.
-/

namespace FactModel

/-! ## Statements that create tables -/

theorem Column.render_eq_ok {d : Dialect} (usual : d ∈ Dialect.usual) (c : Column) :
    ∃ text, c.render d = .ok text := by
  obtain ⟨type, named⟩ := Dialect.typeName_usual usual c.type
  exact ⟨_, by rw [Column.render, named]; rfl⟩

theorem Table.render_eq_ok {d : Dialect} (usual : d ∈ Dialect.usual) (t : Table) :
    ∃ text, t.render d = .ok text := by
  obtain ⟨columns, made⟩ := exists_mapM_eq_ok (l := t.columns) fun c _ => c.render_eq_ok usual
  exact ⟨_, by rw [Table.render, made]; rfl⟩

/-- In a usual dialect the statements can be made when the tables can be ordered; otherwise it is a
circle that prevents it. -/
theorem Artifact.tables_cases {d : Dialect} (usual : d ∈ Dialect.usual) (s : Schema) :
    ((∃ ordered, s.creationOrder = .ok ordered) ∧ ∃ text, tables s d = .ok text) ∨
      ((¬∃ ordered, s.creationOrder = .ok ordered) ∧
        ∃ names, tables s d = .error (.circular names)) := by
  cases order : s.creationOrder with
  | error names => exact .inr ⟨by simp, names, by rw [tables, order]; rfl⟩
  | ok ordered =>
    obtain ⟨statements, made⟩ :=
      exists_mapM_eq_ok (l := ordered) fun t _ => t.render_eq_ok usual
    refine .inl ⟨⟨ordered, rfl⟩, blocks statements, ?_⟩
    simp only [tables, order, made, Except.mapError, bind, Except.bind]
    rfl

/-! ## What is looked up -/

/-- Whatever is looked up when artifacts are made is there.

* Elements carry their own positions, and all positions stored anywhere are in range.
* A reference attribute leads to a relationship to one from its entity.
* Every entity has a table with a primary key and a view, and what a column stores is an attribute.
* The rows that a rule on a count is about can be counted. -/
structure Graph.Resolved (g : Graph) (s : Schema) : Prop where
  entityIndex : ∀ (i : Nat) (e : Entity), g.entities[i]? = some e → e.index = i
  closed : g.Closed
  references : ∀ a ∈ g.attributes, a.type = .reference → ∃ target r,
    a.references = some target ∧
      (g.outgoing a.entity).find? (fun r => r.target == target && r.derivable) = some r
  tables : ∀ entity < g.entities.length, ∃ t v, s.tableOf entity = .ok t ∧ t.primaryKey ≠ [] ∧
    View.ofEntity g s entity = .ok v
  columns : ∀ t ∈ s.tables, ∀ c ∈ t.columns, ∀ i, c.attr = some i → i < g.attributes.length
  counts : ∀ c ∈ g.constraints, ∀ target count relationship,
    c.demand = .minCount target count relationship →
      ∃ check, Checks.minCount? s c.entity relationship count = .ok (some check)

section

variable {doc : Document} {g : Graph} (compiled : Compiled doc g)

include compiled

theorem Compiled.resolved (grounded : ∀ c ∈ g.constraints, g.draft.Grounds g.derived c) :
    g.Resolved (Schema.ofGraph g) where
  entityIndex := compiled.wellFormed.placed.entityIndex
  closed := compiled.closed
  references := by
    intro a mem type
    obtain ⟨target, references⟩ := Option.isSome_iff_exists.mp
      ((compiled.wellFormed.apart.referenceType a mem).mp type)
    obtain ⟨r, ⟨rMem, derivable, source, isTarget⟩, -⟩ := compiled.reference_belongs mem references
    have found : ((g.outgoing a.entity).find? fun r =>
        r.target == target && r.derivable).isSome = true :=
      List.find?_isSome.mpr
        ⟨r, Mapping.mem_outgoing.mpr ⟨rMem, source⟩, by simp [isTarget, derivable]⟩
    obtain ⟨s, isFound⟩ := Option.isSome_iff_exists.mp found
    exact ⟨target, s, references, isFound⟩
  tables := by
    intro entity inGraph
    obtain ⟨t, -, table, sound, -⟩ := Mapping.tableOf_eq_ok compiled inGraph
    obtain ⟨v, viewed, -⟩ := View.laid_ofEntity compiled table
    exact ⟨t, v, table, by simp [sound.primary], viewed⟩
  columns := by
    intro t tMem c cMem i stored
    obtain ⟨a, aMem, rfl, -⟩ := (Mapping.columnSound_of_mem tMem cMem).stores i stored
    exact compiled.wellFormed.placed.attributeIndex.lt_length (compiled.mem_attributesOf.mp aMem).1
  counts := by
    intro c mem target count relationship demand
    have grounds := grounded c mem
    rw [Draft.Grounds, demand] at grounds
    obtain ⟨r, rMem, rfl, linked⟩ := grounds
    exact Checks.minCount?_eq_some compiled rMem linked count

end

/-- A reference attribute of the graph leads to a relationship. -/
theorem Graph.Resolved.checkReference_eq_ok {g : Graph} {s : Schema} (resolved : g.Resolved s)
    {a : Attribute} (mem : a ∈ g.attributes) : g.checkReference a = .ok () := by
  rw [Graph.checkReference]
  refine if_neg ?_
  rintro ⟨type, unmeant⟩
  obtain ⟨target, r, references, found⟩ := resolved.references a mem type
  have meant := List.find?_some found
  simp only [Bool.and_eq_true, beq_iff_eq] at meant
  simp only [Bool.not_eq_true', List.any_eq_false] at unmeant
  exact unmeant r (List.mem_of_find?_eq_some found) (by simp [references, meant])

/-! ## Look-ups of generators -/

section Checks

variable {g : Graph} {s : Schema} (resolved : g.Resolved s)

include resolved

theorem Mapping.check_eq_ok : Mapping.check g = .ok () := by
  have attributes : (g.entities.forM fun e => do
      g.checkAttributes e
      (g.attributesOf e.index).forM g.checkReference) = .ok () := by
    refine forM_eq_ok fun e mem => ?_
    rw [resolved.closed.checkAttributes_eq_ok mem]
    exact forM_eq_ok fun a had => resolved.checkReference_eq_ok (Graph.mem_of_mem_attributesOf had)
  rw [Mapping.check, attributes]
  refine forM_eq_ok fun r mem => ?_
  obtain ⟨source, leads⟩ := resolved.closed.ends r mem
  rw [Graph.checkEntity_eq_ok source]
  exact Graph.checkEntity_eq_ok leads

theorem Matrix.check_eq_ok : Matrix.check g = .ok () := by
  refine forM_eq_ok fun r mem => ?_
  obtain ⟨source, leads⟩ := resolved.closed.ends r mem
  rw [Graph.checkEntity_eq_ok source]
  exact Graph.checkEntity_eq_ok leads

theorem Checks.check_eq_ok : Checks.check g = .ok () := by
  have constraints : g.constraints.forM g.checkConstraint = .ok () :=
    forM_eq_ok fun c mem => resolved.closed.checkConstraint_eq_ok mem
  have rules : g.subtypeRules.forM g.checkSubtypeRule = .ok () :=
    forM_eq_ok fun rule mem => resolved.closed.checkSubtypeRule_eq_ok mem
  rw [Checks.check, constraints, rules]
  exact forM_eq_ok fun e mem => resolved.closed.checkAttributes_eq_ok mem

theorem Question.check_eq_ok : Question.check g = .ok () :=
  forM_eq_ok fun _ mem => resolved.closed.checkAttributes_eq_ok mem

theorem outgoing_forM_eq_ok (entity : Nat) :
    ((g.outgoing entity).forM fun r => g.checkEntity r.target) = .ok () :=
  forM_eq_ok fun r mem =>
    Graph.checkEntity_eq_ok (resolved.closed.ends r (List.mem_of_mem_filter mem)).2

theorem constraintsOf_forM_eq_ok (entity : Nat) :
    (g.constraintsOf entity).forM g.checkConstraint = .ok () :=
  forM_eq_ok fun _ mem => resolved.closed.checkConstraint_eq_ok (List.mem_of_mem_filter mem)

theorem subtypeRulesOf_forM_eq_ok (entity : Nat) :
    (g.subtypeRulesOf entity).forM g.checkSubtypeRule = .ok () :=
  forM_eq_ok fun _ mem => resolved.closed.checkSubtypeRule_eq_ok (List.mem_of_mem_filter mem)

theorem Sentences.check_eq_ok : Sentences.check g = .ok () := by
  refine forM_eq_ok fun e mem => ?_
  have paths : ((g.derivedOf e.index).forM fun d => g.checkPath d.path) = .ok () :=
    forM_eq_ok fun d had => resolved.closed.checkPath_eq_ok
      (resolved.closed.derived d (List.mem_of_mem_filter had)).2.1
  rw [resolved.closed.checkAttributes_eq_ok mem, outgoing_forM_eq_ok resolved e.index, paths,
    constraintsOf_forM_eq_ok resolved e.index]
  exact subtypeRulesOf_forM_eq_ok resolved e.index

theorem Description.check_eq_ok : Description.check g = .ok () := by
  refine forM_eq_ok fun e mem => ?_
  have references : (g.attributesOf e.index).forM g.checkReference = .ok () :=
    forM_eq_ok fun a had => resolved.checkReference_eq_ok (Graph.mem_of_mem_attributesOf had)
  rw [resolved.closed.checkAttributes_eq_ok mem, references, outgoing_forM_eq_ok resolved e.index,
    constraintsOf_forM_eq_ok resolved e.index]
  exact subtypeRulesOf_forM_eq_ok resolved e.index

/-- The schema of a graph is mapped without failure. -/
theorem Schema.map_eq_ok : Schema.map g = .ok (Schema.ofGraph g) := by
  rw [Schema.map, Mapping.check_eq_ok resolved]
  rfl

end Checks

/-- A generator that finds all that it looks up works as it does without looking. -/
theorem Generator.make_after {check : Graph → Except Missing Unit} {generator : Generator}
    {g : Graph} (passes : check g = .ok ()) (s : Schema) (d : Dialect) :
    (Generator.after check generator).make g s d = generator.make g s d := by
  simp only [Generator.after, passes]
  rfl

/-! ## Requests -/

namespace Registry

/-- A usual kind is known in every usual dialect. -/
theorem find_usual {kind : String} {generator : Generator}
    (known : (kind, generator) ∈ Generator.usual) {d : Dialect} (usual : d ∈ Dialect.usual) :
    Registry.usual.find { kind, dialect := d.name } = .ok (d, generator) := by
  have byDialect : Registry.usual.dialect? d.name = some d := by
    simp only [Dialect.usual, List.mem_cons, List.not_mem_nil, or_false] at usual
    rcases usual with rfl | rfl | rfl <;> rfl
  have byKind : Registry.usual.generator? kind d.name = some generator := by
    simp only [Generator.usual, List.mem_cons, List.not_mem_nil, or_false, Prod.mk.injEq] at known
    rcases known with ⟨rfl, rfl⟩ | ⟨rfl, rfl⟩ | ⟨rfl, rfl⟩ | ⟨rfl, rfl⟩ | ⟨rfl, rfl⟩ |
      ⟨rfl, rfl⟩ | ⟨rfl, rfl⟩ | ⟨rfl, rfl⟩ <;>
      simp [Registry.generator?, Registry.usual, Generator.usual, Keyed.get?]
  simp only [find, byDialect, byKind]

section Usual

variable {kind : String} {generator : Generator} (known : (kind, generator) ∈ Generator.usual)
  {d : Dialect} (usual : d ∈ Dialect.usual) {g : Graph}
  (mapped : Schema.map g = .ok (Schema.ofGraph g))

include known usual mapped

/-- A request is met as its generator works out. -/
theorem generate_usual : Registry.usual.generate g { kind, dialect := d.name } =
    (generator.make g (Schema.ofGraph g) d).mapError fun cause =>
      { request := { kind, dialect := d.name }, error := .failed cause } := by
  simp only [generate, find_usual known usual, mapped]
  rfl

theorem generate_eq_ok (makes : ∃ text, generator.make g (Schema.ofGraph g) d = .ok text) :
    ∃ text, Registry.usual.generate g { kind, dialect := d.name } = .ok text := by
  obtain ⟨text, made⟩ := makes
  exact ⟨text, by rw [generate_usual known usual mapped, made]; rfl⟩

/-- A refusal tells why its generator failed. -/
theorem of_generate_eq_error {refusal : Refusal}
    (refused : Registry.usual.generate g { kind, dialect := d.name } = .error refusal) :
    ∃ cause, generator.make g (Schema.ofGraph g) d = .error cause ∧
      refusal.error = .failed cause := by
  rw [generate_usual known usual mapped] at refused
  cases made : generator.make g (Schema.ofGraph g) d with
  | ok text => simp [made, Except.mapError] at refused
  | error cause =>
    simp only [made, Except.mapError, Except.error.injEq] at refused
    exact ⟨cause, rfl, by rw [← refused]⟩

/-- A request is refused just when its generator fails. -/
theorem refused_iff :
    (∃ refusal, Registry.usual.generate g { kind, dialect := d.name } = .error refusal) ↔
      ¬∃ text, generator.make g (Schema.ofGraph g) d = .ok text := by
  rw [generate_usual known usual mapped]
  cases generator.make g (Schema.ofGraph g) d <;> simp [Except.mapError]

end Usual

end Registry

/-! ## Artifacts of compiled graphs -/

/-- What requests for the artifacts of a graph in a dialect come to.

* Views, rollups, the matrix, questions, sentences and the description are always made.
* Statements that create tables are refused just when entities refer to each other in a circle, and
  the refusal is named after it.
* Checks are refused just when a constraint is on an attribute that has no column, and the refusal
  gives such a constraint. -/
structure Graph.Generates (g : Graph) (d : Dialect) : Prop where
  always : ∀ kind ∈ ["logical-views", "aggregation-views", "matrix", "nlp-pairs", "rag-doc",
    "graph-describe"], ∃ text, Registry.usual.generate g { kind, dialect := d.name } = .ok text
  tables : (∃ refusal, Registry.usual.generate g { kind := "physical-ddl", dialect := d.name } =
    .error refusal) ↔ g.Circular
  tablesRefused : ∀ refusal, Registry.usual.generate g
    { kind := "physical-ddl", dialect := d.name } = .error refusal →
      refusal.name = "SchemaCycleError"
  checks : (∃ refusal, Registry.usual.generate g { kind := "tests", dialect := d.name } =
    .error refusal) ↔ ∃ c ∈ g.constraints, g.Unstored (Schema.ofGraph g) c
  checksRefused : ∀ refusal, Registry.usual.generate g { kind := "tests", dialect := d.name } =
    .error refusal → ∃ c ∈ g.constraints, g.Unstored (Schema.ofGraph g) c ∧
      refusal.error = .failed (.noColumn (g.rationale c))

section

variable {doc : Document} {g : Graph} (compiled : Compiled doc g)

include compiled

/-- All usual generators but those for tables and for checks always work. -/
theorem Generator.make_eq_ok (resolved : g.Resolved (Schema.ofGraph g)) {kind : String}
    {generator : Generator} (known : (kind, generator) ∈ Generator.usual)
    (notTables : kind ≠ "physical-ddl") (notChecks : kind ≠ "tests") (d : Dialect) :
    ∃ text, generator.make g (Schema.ofGraph g) d = .ok text := by
  simp only [Generator.usual, List.mem_cons, List.not_mem_nil, or_false, Prod.mk.injEq] at known
  rcases known with ⟨rfl, rfl⟩ | ⟨rfl, rfl⟩ | ⟨rfl, rfl⟩ | ⟨rfl, rfl⟩ | ⟨rfl, rfl⟩ |
    ⟨rfl, rfl⟩ | ⟨rfl, rfl⟩ | ⟨rfl, rfl⟩
  · contradiction
  · exact Artifact.views_eq_ok compiled d
  · contradiction
  · exact ⟨_, rfl⟩
  · exact ⟨_, make_after (Matrix.check_eq_ok resolved) _ d⟩
  · rw [make_after (Question.check_eq_ok resolved)]
    exact Artifact.questions_eq_ok compiled d
  · exact ⟨_, make_after (Sentences.check_eq_ok resolved) _ d⟩
  · exact ⟨_, make_after (Description.check_eq_ok resolved) _ d⟩

theorem Compiled.generates (named : ∀ a ∈ g.attributes, Name.Nonblank a.name)
    (grounded : ∀ c ∈ g.constraints, g.draft.Grounds g.derived c) {d : Dialect}
    (usual : d ∈ Dialect.usual) : g.Generates d := by
  have tables : ("physical-ddl", _) ∈ Generator.usual := List.mem_cons_self
  have checks : ("tests", _) ∈ Generator.usual :=
    List.mem_cons_of_mem _ (List.mem_cons_of_mem _ List.mem_cons_self)
  have resolved := compiled.resolved grounded
  have mapped := Schema.map_eq_ok resolved
  have ordered := Mapping.creationOrder_isOk_iff compiled
  have checked : (Generator.after Checks.check
      { make := Artifact.checks, log := Generator.checksLog }).make g (Schema.ofGraph g) d =
      Artifact.checks g (Schema.ofGraph g) d :=
    Generator.make_after (Checks.check_eq_ok resolved) (Schema.ofGraph g) d
  constructor
  · intro kind mem
    have known : kind ∈ Generator.usual.map (·.1) := by
      simp only [List.mem_cons, List.not_mem_nil, or_false] at mem
      rcases mem with rfl | rfl | rfl | rfl | rfl | rfl <;> decide
    obtain ⟨⟨_, generator⟩, inUsual, rfl⟩ := List.mem_map.mp known
    refine Registry.generate_eq_ok inUsual usual mapped
      (Generator.make_eq_ok compiled resolved inUsual ?_ ?_ d) <;> rintro rfl <;> simp at mem
  · rw [Registry.refused_iff tables usual mapped, ← not_iff_not, not_not, ← ordered]
    rcases Artifact.tables_cases usual (Schema.ofGraph g) with
      ⟨isOrdered, made⟩ | ⟨notOrdered, names, failed⟩
    · exact ⟨fun _ => isOrdered, fun _ => made⟩
    · simp [failed, notOrdered]
  · intro refusal refused
    obtain ⟨cause, failed, told⟩ := Registry.of_generate_eq_error tables usual mapped refused
    rcases Artifact.tables_cases usual (Schema.ofGraph g) with
      ⟨-, text, made⟩ | ⟨-, names, circular⟩
    · simp [made] at failed
    · obtain rfl := Except.error.inj (circular.symm.trans failed)
      simp [Refusal.name, Refusal.isCircular, told]
  · rw [Registry.refused_iff checks usual mapped, checked,
      Artifact.checks_isOk_iff compiled named grounded d]
    simp only [not_forall, not_not, exists_prop]
  · intro refusal refused
    obtain ⟨cause, failed, told⟩ := Registry.of_generate_eq_error checks usual mapped refused
    rw [checked] at failed
    obtain ⟨c, mem, unstored, rfl⟩ := Artifact.of_checks_eq_error compiled named grounded failed
    exact ⟨c, mem, unstored, told⟩

end

/-- Of a graph that a text compiles to, all that is looked up is there, and artifacts are refused in
the usual dialects for two reasons only. -/
theorem generates_of_compile {text : String} {g : Graph} (compiles : compile text = .ok g) :
    g.Resolved (Schema.ofGraph g) ∧ ∀ d ∈ Dialect.usual, g.Generates d := by
  obtain ⟨doc, -, compiled⟩ := compiled_of_compile compiles
  have grounded := grounds_of_compile compiles
  exact ⟨compiled.resolved grounded, fun d usual =>
    compiled.generates (nonblank_of_compile compiles) grounded usual⟩

/-- Two entities that refer to each other, and a rule on a derived attribute that the view hides. -/
theorem generates_circular : ∃ g,
    compile ("**Customer**\n- Customer has an Id.\n**Order**\n- Order has a Customer.\n" ++
      "- Order has one or more Customers.\n- Order must have a Customer Id.\n") = .ok g ∧
    (g.relationships.map (fun r => (r.source, r.target, r.cardinality)) =
        [(1, 0, .manyToOne), (1, 0, .oneToMany)] ∧
      g.constraints.map (·.demand) = [.onAttribute .notNull "Customer Id" true]) ∧
    g.Resolved (Schema.ofGraph g) ∧ ∀ d ∈ Dialect.usual, g.Generates d := by
  have passes : compilesTo
      ("**Customer**\n- Customer has an Id.\n**Order**\n- Order has a Customer.\n" ++
        "- Order has one or more Customers.\n- Order must have a Customer Id.\n")
      (fun g => decide (g.relationships.map (fun r => (r.source, r.target, r.cardinality)) =
          [(1, 0, .manyToOne), (1, 0, .oneToMany)] ∧
        g.constraints.map (·.demand) = [.onAttribute .notNull "Customer Id" true])) = true := by
    decide +kernel
  obtain ⟨g, compiles, shown⟩ := of_compilesTo passes
  exact ⟨g, compiles, of_decide_eq_true shown, generates_of_compile compiles⟩

end FactModel
