import FactModel.Proofs.Artifact.Checks
import FactModel.Proofs.Sql.Selecting
import FactModel.Proofs.View.Housing

/-!
# What checks on counts count

The text of a check on a count is read as a database reads it, and it returns a number.  What the
number should be is said without the query: rows refer to each other through a foreign key when the
value of the key is the primary key of the row referred to.  A check on a count counts the rows of an
entity to which too few rows of another entity refer, through the key that backs a relationship
between the two.  There is one exception: when the primary key of the entity has no name, the text is
no query.
-/

namespace FactModel

open Sql Text

/-! ## Rows that refer to a row -/

section References

variable {V : Type} [DecidableEq V]

/-- Whether a row refers to another through a foreign key: it is the row that is found, in the table
that the key refers to, under the value of the key. -/
def ForeignKey.Refers (k : ForeignKey) (s : Schema) (db : Contents V) (row target : Row V) : Prop :=
  ∃ t key, s.table? k.refTable = some t ∧ row k.column = some key ∧ t.lookup db key = some target

open Classical in
/-- The number of rows of a table that refer to a row through a foreign key. -/
noncomputable def ForeignKey.countReferring (k : ForeignKey) (s : Schema) (db : Contents V)
    (child : Table) (target : Row V) : Nat :=
  (db child.name).countP fun row => k.Refers s db row target

/-- A row of a table is found under its primary key. -/
theorem Table.lookup_eq_some_iff {t : Table} {column : String} (primary : t.primaryKey = [column])
    {db : Contents V} (nodup : ((db t.name).map fun row => t.primaryKey.map row).Nodup)
    {row : Row V} (mem : row ∈ db t.name) {key : V} :
    t.lookup db key = some row ↔ row column = some key := by
  have spelled (other : Row V) :
      (t.primaryKey.map other == [some key]) = true ↔ other column = some key := by
    simp [primary]
  constructor
  · intro found
    exact (spelled row).mp (List.find?_some found :)
  · intro keyed
    have there : (t.lookup db key).isSome = true :=
      List.find?_isSome.mpr ⟨row, mem, (spelled row).mpr keyed⟩
    obtain ⟨other, found⟩ := Option.isSome_iff_exists.mp there
    have otherKeyed := (spelled other).mp (List.find?_some found :)
    have same : t.primaryKey.map other = t.primaryKey.map row := by
      rw [primary, List.map_singleton, List.map_singleton, otherKeyed, keyed]
    rw [found, List.inj_on_of_nodup_map nodup (List.mem_of_find?_eq_some found) mem same]

/-- A row refers to one of the table that the key refers to when it has the primary key of it. -/
theorem ForeignKey.refers_iff {k : ForeignKey} {s : Schema} {parent : Table}
    (refTable : s.table? k.refTable = some parent) (primary : parent.primaryKey = [k.refColumn])
    {db : Contents V} (nodup : ((db parent.name).map fun row => parent.primaryKey.map row).Nodup)
    {target : Row V} (mem : target ∈ db parent.name) {row : Row V} :
    k.Refers s db row target ↔ (row k.column).isSome = true ∧ row k.column = target k.refColumn := by
  constructor
  · rintro ⟨t, key, isTable, value, found⟩
    obtain rfl := Option.some.inj (refTable.symm.trans isTable)
    have keyed := (Table.lookup_eq_some_iff primary nodup mem).mp found
    exact ⟨by rw [value]; rfl, value.trans keyed.symm⟩
  · rintro ⟨there, same⟩
    obtain ⟨key, value⟩ := Option.isSome_iff_exists.mp there
    refine ⟨parent, key, refTable, value, ?_⟩
    exact (Table.lookup_eq_some_iff primary nodup mem).mpr (same.symm.trans value)

open Classical in
/-- The rows that refer to a row are those that have its primary key. -/
theorem ForeignKey.countP_eq_countReferring {k : ForeignKey} {s : Schema} {parent child : Table}
    (refTable : s.table? k.refTable = some parent) (primary : parent.primaryKey = [k.refColumn])
    {db : Contents V} (nodup : ((db parent.name).map fun row => parent.primaryKey.map row).Nodup)
    {target : Row V} (mem : target ∈ db parent.name) :
    ((db child.name).countP fun row =>
      (row k.column).isSome = true ∧ row k.column = target k.refColumn) =
        k.countReferring s db child target := by
  refine List.countP_congr fun row _ => ?_
  rw [decide_eq_true_eq, decide_eq_true_eq]
  exact (refers_iff refTable primary nodup mem).symm

end References

/-! ## Relationships that link entities -/

/-- Whether rows of a target belong to rows of an entity by a relationship: it leads from the target
to one of the entity, or from the entity to many of the target. -/
def Relationship.Links (r : Relationship) (entity target : Nat) : Prop :=
  (r.derivable = true ∧ r.source = target ∧ r.target = entity) ∨
    (r.cardinality = .oneToMany ∧ r.source = entity ∧ r.target = target)

/-- The key for a relationship that links two entities leads from the target to the entity. -/
theorem Relationship.links_iff {r : Relationship} {entity target : Nat} :
    r.Links entity target ↔ r.holder = target ∧ r.referred = entity := by
  have isMany := r.isToMany_iff
  cases kind : r.derivable <;>
    simp only [kind, Bool.not_false, Bool.not_true, beq_iff_eq, beq_eq_false_iff_ne] at isMany <;>
    simp [Links, holder, referred, kind, isMany, and_comm]

theorem Draft.links_iff {r : Relationship} {entity target : Nat} :
    Draft.links r entity target = true ↔ r.Links entity target := by
  simp only [Draft.links, Relationship.Links, Bool.or_eq_true, Bool.and_eq_true, beq_iff_eq]
  tauto

theorem Checks.links_iff {r : Relationship} {entity target : Nat} :
    Checks.links r entity target = true ↔ r.Links entity target := by
  simp only [Checks.links, Relationship.Links, Bool.or_eq_true, Bool.and_eq_true, beq_iff_eq]
  tauto

/-! ## Queries that count rows -/

/-- The query that counts the rows of a parent to which fewer rows of a child refer than are asked
for. -/
def countBelow (parent parentKey child childKey : String) (count : Nat) : Sql.Statement :=
  { selection := .count "failures"
    source := { table := parent, as := some "p" }
    condition := some
      { left := .count { table := child, as := some "c" } (.column (some "c") childKey) .equal
          (.column (some "p") parentKey)
        operator := .less
        right := .atom (.literal (.number (toString count).toList)) } }

section Rows

variable {V : Type} [DecidableEq V]

theorem Sql.Operator.equal_holds_iff (dom : Domain V) {a b : Option V} :
    Operator.equal.holds dom a b = true ↔ a.isSome = true ∧ a = b := by
  cases a <;> cases b <;> simp [Operator.holds]

/-- It returns the number of the rows of the parent whose key few rows of the child have. -/
theorem count?_countBelow {dom : Domain V} (counts : dom.Counts) (db : Contents V)
    (parent parentKey child childKey : String) (count : Nat) :
    (countBelow parent parentKey child childKey count).count? dom db =
      some ((db parent).countP fun row =>
        ((db child).countP fun other =>
          (other childKey).isSome = true ∧ other childKey = row parentKey) < count) := by
  refine congrArg some ?_
  rw [Sql.Statement.rows, ← List.countP_eq_length_filter]
  refine List.countP_congr fun row _ => ?_
  have referring : ((db child).countP fun other =>
      let inner := ("c", other) :: [("p", row)]
      Operator.equal.holds dom (Atom.value dom inner (.column (some "c") childKey))
        (Atom.value dom inner (.column (some "p") parentKey))) =
      (db child).countP fun other =>
        (other childKey).isSome = true ∧ other childKey = row parentKey := by
    refine List.countP_congr fun other _ => ?_
    rw [Operator.equal_holds_iff, decide_eq_true_eq]
    rfl
  change dom.precedes (dom.ofCount _) (dom.ofLiteral (.number (toString count).toList)) = true ↔ _
  rw [counts, ← referring]
  rfl

/-- Of two rows one is referred to twice, and the other once. -/
example :
    let row (n : Nat) : Row (Nat ⊕ Literal) := fun _ => some (.inl n)
    let db : Contents (Nat ⊕ Literal) := fun table =>
      if table = "a" then [row 1, row 2] else [row 1, row 1, row 2]
    (countBelow "a" "a_id" "b" "a_id" 2).count? Domain.numbers db = some 1 := by
  decide

end Rows

/-! ### Their texts -/

section Texts

variable {d : Dialect} (usual : d ∈ Dialect.usual)

include usual

/-- What selects a number of rows is read up to the closing parenthesis. -/
theorem reads_countRows (rest : List Char) :
    Reads d.lexis ("SELECT".toList ++ ' ' :: ("COUNT".toList ++ '(' :: '*' :: ')' :: rest)) rest
      [.word "SELECT", .word "COUNT", .sign "(", .sign "*", .sign ")"] := by
  refine (Reads.keyword usual "SELECT" (by simp [usedWords]) (by simp [delimiters])).append
    (.space (by decide) ?_)
  refine (Reads.keyword usual "COUNT" (by simp [usedWords]) (by simp [delimiters])).append ?_
  refine (Reads.bracket usual "(" (by simp)).append ?_
  exact (Reads.bracket usual "*" (by simp)).append (Reads.bracket usual ")" (by simp))

/-- A table and the name of its rows are read up to the condition. -/
theorem reads_tableAs {table as : String} (named : IsTableName table) (mem : as ∈ ["p", "c"])
    {blank : Char} (space : isSpace blank = true) (ends : blank ∈ delimiters) (rest : List Char) :
    Reads d.lexis ("FROM".toList ++ ' ' :: ((d.quote table).toList ++ ' ' :: (as.toList ++
      blank :: ("WHERE".toList ++ ' ' :: rest)))) rest
      ([.word "FROM"] ++ (nameTokens d table ++ [.word as, .word "WHERE"])) := by
  have plain : ∀ as ∈ ["p", "c"], as ≠ "" ∧ Name.IsPlain as ∧ as ∈ followers := by decide
  obtain ⟨filled, isPlain, follows⟩ := plain as mem
  have single : ' ' ∈ delimiters := by simp [delimiters]
  refine (Reads.keyword usual "FROM" (by simp [usedWords]) single).append (.space (by decide) ?_)
  refine (Reads.quote usual named.plain single
    (unpaired_follower usual table _ follows (by decide) ends)).append (.space (by decide) ?_)
  refine (Reads.word usual filled isPlain ends (unpaired_follower usual as rest
    (by simp [followers]) space single)).append (.space space ?_)
  exact (Reads.keyword usual "WHERE" (by simp [usedWords]) single).append
    (.space (by decide) (.nil rest))

/-- A column with the name of its rows is read. -/
theorem reads_member {as column : String} (mem : as ∈ ["p", "c"]) (plain : Name.IsPlain column)
    {mark : Char} {rest : List Char} (ends : mark ∈ delimiters)
    (unpaired : Unpaired d.lexis column (mark :: rest)) :
    Reads d.lexis (as.toList ++ '.' :: ((d.quote column).toList ++ mark :: rest)) (mark :: rest)
      ([.word as, .sign "."] ++ nameTokens d column) := by
  have words : ∀ as ∈ ["p", "c"], as ≠ "" ∧ Name.IsPlain as := by decide
  obtain ⟨filled, isPlain⟩ := words as mem
  have alone : Unpaired d.lexis as ([] ++ '.' :: ((d.quote column).toList ++ mark :: rest)) :=
    unpaired_sign usual as _ (List.forall_mem_nil _) (by simp)
  refine (Reads.word usual filled isPlain (by simp [delimiters]) alone).append ?_
  exact (Reads.bracket usual "." (by simp)).append (.quote usual plain ends unpaired)

/-- The text of the number of the rows of a child that have the key of a row of a parent, in front of
what follows. -/
def referringText (d : Dialect) (parentKey child childKey : String) (rest : List Char) : List Char :=
  '(' :: ("SELECT".toList ++ ' ' :: ("COUNT".toList ++ '(' :: '*' :: ')' :: ' ' ::
    ("FROM".toList ++ ' ' :: ((d.quote child).toList ++ ' ' :: ("c".toList ++ ' ' ::
      ("WHERE".toList ++ ' ' :: ("c".toList ++ '.' :: ((d.quote childKey).toList ++
        ' ' :: ("=".toList ++ ' ' :: ("p".toList ++ '.' :: ((d.quote parentKey).toList ++
          ')' :: rest)))))))))))

/-- The tokens of the number of the rows of a child that have the key of a row of a parent. -/
def referringTokens (d : Dialect) (parentKey child childKey : String) : List Token :=
  [.sign "("] ++ ([.word "SELECT", .word "COUNT", .sign "(", .sign "*", .sign ")"] ++
    (([.word "FROM"] ++ (nameTokens d child ++ [.word "c", .word "WHERE"])) ++
      (([.word "c", .sign "."] ++ nameTokens d childKey) ++ ([.sign "="] ++
        (([.word "p", .sign "."] ++ nameTokens d parentKey) ++ [.sign ")"])))))

/-- The number of the rows of a child is read up to the closing parenthesis. -/
theorem reads_referring {parentKey child childKey : String} (named : IsTableName child)
    (parentPlain : Name.IsPlain parentKey) (childPlain : Name.IsPlain childKey) (rest : List Char) :
    Reads d.lexis (referringText d parentKey child childKey rest) rest
      (referringTokens d parentKey child childKey) := by
  have blank : isSpace ' ' = true := by decide
  have single : ' ' ∈ delimiters := by simp [delimiters]
  have closes : ')' ∈ delimiters := by simp [delimiters]
  refine (Reads.bracket usual "(" (by simp)).append ?_
  refine (reads_countRows usual _).append (.space blank ?_)
  refine (reads_tableAs usual named (by simp) blank single _).append ?_
  have unpaired : Unpaired d.lexis childKey ([' '] ++ '=' ::
      (' ' :: ("p".toList ++ '.' :: ((d.quote parentKey).toList ++ ')' :: rest)))) :=
    unpaired_sign usual childKey _ (by simp [blank]) (by simp)
  refine (reads_member usual (by simp) childPlain single unpaired).append (.space blank ?_)
  refine (Reads.comparison usual "=" (by simp)).append (.space blank ?_)
  have alone : Unpaired d.lexis parentKey ([] ++ ')' :: rest) :=
    unpaired_sign usual parentKey rest (List.forall_mem_nil _) (by simp)
  exact (reads_member usual (by simp) parentPlain closes alone).append (.bracket usual ")" (by simp))

/-- The tokens of a query that counts the rows to which few rows refer. -/
def countTokens (d : Dialect) (parent parentKey child childKey : String) (count : Nat) :
    List Token :=
  [.word "SELECT", .word "COUNT", .sign "(", .sign "*", .sign ")"] ++ ([.word "AS"] ++
    ([.word "failures"] ++ (([.word "FROM"] ++ (nameTokens d parent ++ [.word "p", .word "WHERE"])) ++
      (referringTokens d parentKey child childKey ++ ([.sign "<"] ++
        ([.number (toString count)] ++ [.sign ";"]))))))

section

variable {parent parentKey child childKey : String} {count : Nat}

omit usual in
theorem toList_render_minCount :
    ((Check.minCount parent parentKey child childKey count).render d).toList =
      "SELECT".toList ++ ' ' :: ("COUNT".toList ++ '(' :: '*' :: ')' :: ' ' :: ("AS".toList ++
        ' ' :: ("failures".toList ++ '\n' :: ("FROM".toList ++ ' ' :: ((d.quote parent).toList ++
          ' ' :: ("p".toList ++ '\n' :: ("WHERE".toList ++ ' ' ::
            referringText d parentKey child childKey (' ' :: ("<".toList ++ ' ' ::
              ((toString count).toList ++ [';'])))))))))) := by
  have lines : (Check.minCount parent parentKey child childKey count).renderBody d =
      ["FROM " ++ d.quote parent ++ " p",
        "WHERE (SELECT COUNT(*) FROM " ++ d.quote child ++ " c " ++
          ("WHERE c." ++ d.quote childKey ++ " = p." ++ d.quote parentKey ++ ") < " ++
            toString count ++ ";")] := rfl
  simp [Check.render, lines, Artifact.unlines, referringText]

/-- The text of a check on a count is read as its tokens. -/
theorem tokens_minCount (isParent : IsTableName parent) (isChild : IsTableName child)
    (parentPlain : Name.IsPlain parentKey) (childPlain : Name.IsPlain childKey) :
    tokens d.lexis ((Check.minCount parent parentKey child childKey count).render d) =
      some (countTokens d parent parentKey child childKey count) := by
  have blank : isSpace ' ' = true := by decide
  have newline : isSpace '\n' = true := by decide
  have single : ' ' ∈ delimiters := by simp [delimiters]
  have line : '\n' ∈ delimiters := by simp [delimiters]
  refine Reads.tokens_eq_some ?_
  rw [toList_render_minCount]
  refine (reads_countRows usual _).append (.space blank ?_)
  refine (Reads.keyword usual "AS" (by simp [usedWords]) single).append (.space blank ?_)
  refine (Reads.word usual (by decide) (by decide) line
    (unpaired_follower usual "failures" _ (by simp [followers]) newline single)).append
    (.space newline ?_)
  refine (reads_tableAs usual isParent (by simp) newline line _).append ?_
  refine (reads_referring usual isChild parentPlain childPlain _).append (.space blank ?_)
  refine (Reads.comparison usual "<" (by simp)).append (.space blank ?_)
  exact (Reads.natural usual count).append (Reads.semicolon usual)

omit usual in
/-- The names of rows stand for them. -/
theorem isColumn_as {as : String} (mem : as ∈ ["p", "c"]) (g : Grammar) :
    isColumn g conditionWords as = true := by
  have noSpace : ∀ as ∈ ["p", "c"], as.contains ' ' = false := by simp
  have noKeyword : ∀ as ∈ ["p", "c"], keywords.contains (upper as) = false := by decide
  have noOther : ∀ as ∈ ["p", "c"], (otherWords g ++ conditionWords).contains (upper as) = false := by
    cases g <;> decide
  simp only [isColumn, mayBeName, noSpace as mem, noKeyword as mem, noOther as mem]
  rfl

omit usual in
theorem mayBeName_as {as : String} (mem : as ∈ ["p", "c"]) : mayBeName as = true :=
  (Bool.and_eq_true_iff.mp (isColumn_as mem .postgres)).1

omit usual in
/-- A column with the name of its rows is read from its tokens. -/
theorem atomAt_member {as name : String} (mem : as ∈ ["p", "c"]) (filled : name ≠ "") (g : Grammar)
    (rest : List Token) : atomAt g (.word as :: .sign "." :: (nameTokens d name ++ rest)) =
      some (.column (some as) name, rest) := by
  have column (ts : List Token) : columnAt g conditionWords (.word as :: ts) = some (as, ts) :=
    if_pos (isColumn_as mem g)
  simp [atomAt, column, skipSign, memberAt_nameTokens filled]

omit usual in
/-- The number of the rows of a child is read from its tokens up to the key of the parent. -/
theorem termAt_referringTokens (isChild : IsTableName child) (childFilled : childKey ≠ "")
    (g : Grammar) (rest : List Token) :
    termAt g (referringTokens d parentKey child childKey ++ rest) =
      (atomAt g (.word "p" :: .sign "." :: (nameTokens d parentKey ++ .sign ")" :: rest))).bind
        fun (right, rest) => (skipSign ")" rest).bind fun rest =>
          some (.count { table := child, as := some "c" } (.column (some "c") childKey) .equal right,
            rest) := by
  have source (ts : List Token) : sourceAt (nameTokens d child ++ .word "c" :: ts) =
      some ({ table := child, as := some "c" }, ts) :=
    sourceAt_as isChild (mayBeName_as (by simp))
  have own (ts : List Token) : atomAt g (.word "c" :: .sign "." :: (nameTokens d childKey ++ ts)) =
      some (.column (some "c") childKey, ts) :=
    atomAt_member (by simp) childFilled g ts
  have noAtom (ts : List Token) : atomAt g (.sign "(" :: ts) = none := rfl
  have select (ts : List Token) := skipWord_used (by decide : "SELECT" ∈ usedWords) ts
  have counted (ts : List Token) := skipWord_used (by decide : "COUNT" ∈ usedWords) ts
  have tables (ts : List Token) := skipWord_used (by decide : "FROM" ∈ usedWords) ts
  have compared (ts : List Token) := skipWord_used (by decide : "WHERE" ∈ usedWords) ts
  have marks (ts : List Token) :
      skipMarks ["(", "*", ")"] (.sign "(" :: .sign "*" :: .sign ")" :: ts) = some ts := rfl
  have opened (ts : List Token) : skipSign "(" (.sign "(" :: ts) = some ts := rfl
  simp only [referringTokens, List.cons_append, List.nil_append, List.append_assoc, termAt, noAtom,
    countAt, opened, skipWords, Option.bind_eq_bind, Option.bind_some, select, counted, marks, tables,
    source, compared, own, operatorAt]
  rfl

omit usual in
/-- The number of the rows of a child is read from its tokens. -/
theorem termAt_referring (isChild : IsTableName child) (parentFilled : parentKey ≠ "")
    (childFilled : childKey ≠ "") (g : Grammar) (rest : List Token) :
    termAt g (referringTokens d parentKey child childKey ++ rest) =
      some (.count { table := child, as := some "c" } (.column (some "c") childKey) .equal
        (.column (some "p") parentKey), rest) := by
  rw [termAt_referringTokens isChild childFilled, atomAt_member (by simp) parentFilled]
  rfl

omit usual in
/-- Nothing is read from the tokens when the key of the parent has no name. -/
theorem termAt_unnamed (isChild : IsTableName child) (childFilled : childKey ≠ "") (g : Grammar)
    (rest : List Token) : termAt g (referringTokens d "" child childKey ++ rest) = none := by
  have noMember (ts : List Token) : atomAt g (.word "p" :: .sign "." :: .sign ")" :: ts) = none := by
    have column (ts : List Token) : columnAt g conditionWords (.word "p" :: ts) = some ("p", ts) :=
      if_pos (isColumn_as (by simp) g)
    simp [atomAt, column, skipSign, memberAt]
  rw [termAt_referringTokens isChild childFilled, nameTokens, if_pos rfl, List.nil_append, noMember]
  rfl

/-- The text of a check on a count is read as its condition is. -/
theorem ofText?_render (isParent : IsTableName parent) (isChild : IsTableName child)
    (parentPlain : Name.IsPlain parentKey) (childPlain : Name.IsPlain childKey) :
    Sql.Statement.ofText? (.ofName d.grammar)
        ((Check.minCount parent parentKey child childKey count).render d) =
      (conditionAt (.ofName d.grammar) (.word "WHERE" ::
        (referringTokens d parentKey child childKey ++
          [.sign "<", .number (toString count), .sign ";"]))).bind fun (condition, rest) =>
        let st : Sql.Statement :=
          { selection := .count "failures", source := { table := parent, as := some "p" }, condition }
        if rest = [.sign ";"] ∧ st.isScoped then some st else none := by
  have noNull : '\x00' ∉ ((Check.minCount parent parentKey child childKey count).render d).toList := by
    have digits : '\x00' ∉ Nat.toDigits 10 count := fun mem =>
      Count.forall_mem_digits (P := (· ≠ '\x00')) (by decide) count _ mem rfl
    have absent {name : String} (plain : Name.IsPlain name) := null_not_mem_quote usual plain
    rw [toList_render_minCount]
    simp [referringText, absent isParent.plain, absent isChild.plain, absent parentPlain,
      absent childPlain, digits]
  have selects (ts : List Token) : selectionAt (.ofName d.grammar) (.word "COUNT" :: .sign "(" ::
      .sign "*" :: .sign ")" :: .word "AS" :: .word "failures" :: ts) =
        some (.count "failures", ts) := by
    rw [selectionAt_function (by decide)]
    simp [functionAt, functionAt.named, skipSign, skipWord_used (by decide : "AS" ∈ usedWords),
      memberAt]
  have source (ts : List Token) : sourceAt (nameTokens d parent ++ .word "p" :: ts) =
      some ({ table := parent, as := some "p" }, ts) :=
    sourceAt_as isParent (mayBeName_as (by simp))
  have select (ts : List Token) := skipWord_used (by decide : "SELECT" ∈ usedWords) ts
  have tables (ts : List Token) := skipWord_used (by decide : "FROM" ∈ usedWords) ts
  rw [Sql.Statement.ofText?, if_neg fun both => noNull both.1]
  refine (congrArg (Option.bind · (statement? _))
    (tokens_minCount usual isParent isChild parentPlain childPlain)).trans ?_
  simp only [Option.bind_some, countTokens, List.cons_append, List.nil_append, List.append_assoc,
    statement?, Option.bind_eq_bind, select, selects, tables, source]

/-- The text of a check on a count is read as the query that counts rows. -/
theorem ofText?_minCount (isParent : IsTableName parent) (isChild : IsTableName child)
    (parentPlain : Name.IsPlain parentKey) (childPlain : Name.IsPlain childKey)
    (parentFilled : parentKey ≠ "") (childFilled : childKey ≠ "") :
    Sql.Statement.ofText? (.ofName d.grammar)
      ((Check.minCount parent parentKey child childKey count).render d) =
        some (countBelow parent parentKey child childKey count) := by
  have number : termAt (.ofName d.grammar) [.number (toString count), .sign ";"] =
      some (.atom (.literal (.number (toString count).toList)), [.sign ";"]) := rfl
  have condition : conditionAt (.ofName d.grammar) (.word "WHERE" ::
      (referringTokens d parentKey child childKey ++
        [.sign "<", .number (toString count), .sign ";"])) =
      some ((countBelow parent parentKey child childKey count).condition, [.sign ";"]) := by
    rw [conditionAt, skipWord_used (by decide)]
    simp only [termAt_referring isChild parentFilled childFilled, operatorAt, number, countBelow,
      Option.bind_eq_bind, Option.bind_some]
    rfl
  have inScope : (countBelow parent parentKey child childKey count).isScoped = true := rfl
  rw [ofText?_render usual isParent isChild parentPlain childPlain, condition, Option.bind_some]
  exact if_pos ⟨rfl, inScope⟩

/-- The text of a check on a count is no query when the key of the parent has no name. -/
theorem ofText?_unnamed (isParent : IsTableName parent) (isChild : IsTableName child)
    (childPlain : Name.IsPlain childKey) (childFilled : childKey ≠ "") :
    Sql.Statement.ofText? (.ofName d.grammar)
      ((Check.minCount parent "" child childKey count).render d) = none := by
  rw [ofText?_render usual isParent isChild (by decide) childPlain, conditionAt,
    skipWord_used (by decide)]
  simp only [termAt_unnamed isChild childFilled]
  rfl

end

end Texts

/-! ## Checks on counts -/

/-- A query reads the table of an entity as parent and that of a target as child.  The key of the
child that backs a relationship leads to the parent, and the query returns the number of the rows of
the parent to which fewer rows of the child refer through it than are asked for. -/
def CountsBelow (s : Schema) (d : Dialect) (entity target relationship count : Nat)
    (query : String) : Prop :=
  ∃ k parent child st, s.keyFor? relationship = some k ∧ s.tableOf entity = .ok parent ∧
    s.tableOf target = .ok child ∧ k ∈ child.foreignKeys ∧ s.table? k.refTable = some parent ∧
    Sql.Statement.ofText? (.ofName d.grammar) query = some st ∧
    st.tables = [parent.name, child.name] ∧
    ∀ (V : Type) [DecidableEq V] (dom : Domain V) (db : Contents V), dom.Counts → s.Keyed db →
      st.count? dom db = some ((db parent.name).countP fun row =>
        k.countReferring s db child row < count)

/-- A rule on a count in words. -/
def Graph.countRule (g : Graph) (entity target count : Nat) : String :=
  let noun := Graph.countNoun (g.entityName target) count
  s!"Every {g.entityName entity} must have at least {count} {noun}."

/-- A text is that of a check on a count: the rule in words and a query that counts what it should. -/
def CountsAs (g : Graph) (s : Schema) (d : Dialect) (entity target relationship count : Nat)
    (text : String) : Prop :=
  ∃ query, text = s!"-- min-count: {g.countRule entity target count}\n{query}" ∧
    CountsBelow s d entity target relationship count query

/-- A text tells that a rule on a count cannot be checked. -/
def TellsUntestable (g : Graph) (entity target count : Nat) (text : String) : Prop :=
  let rule := g.countRule entity target count
  let name := g.entityName entity
  let targetName := g.entityName target
  text = s!"-- min-count: {rule}\n-- not testable: no foreign key links {targetName} to {name}"

/-- The block that a step comes to, if it does. -/
def Checks.Step.block? (step : Step) : Option CheckBlock :=
  step.outcome.toOption.join

/-- The rules on counts of a graph are checked as they should be, in the texts for a dialect.

* The check of a constraint counts the rows of the entity with too few rows of the target, by the
  relationship that the constraint names, and this relationship links the two.
* A subtype rule on a count is checked in the same way when some relationship links the subtype and
  the target; otherwise it is told to be untestable.
* The artifact consists of the blocks of constraints, subtype rules and identifiers, in order. -/
structure Graph.CountsChecked (g : Graph) (s : Schema) (d : Dialect) : Prop where
  constraints : ∀ c ∈ g.constraints, ∀ target count relationship,
    c.demand = .minCount target count relationship →
      (∃ r, g.relationships[relationship]? = some r ∧ r.Links c.entity target) ∧
      ∃ block, (Checks.ofConstraint g s c).outcome = .ok (some block) ∧
        CountsAs g s d c.entity target relationship count (block.render d)
  rules : ∀ rule ∈ g.subtypeRules, ∀ target count, rule.predicate = some (.related target count) →
    ∃ block, (Checks.ofSubtypeRule g s rule).outcome = .ok (some block) ∧
      ((∃ r ∈ g.relationships, r.Links rule.subtype target ∧
        CountsAs g s d rule.subtype target r.index count (block.render d)) ↔
          ∃ r ∈ g.relationships, r.Links rule.subtype target) ∧
      (TellsUntestable g rule.subtype target count (block.render d) ↔
        ¬∃ r ∈ g.relationships, r.Links rule.subtype target)
  emitted : ∀ text, Artifact.checks g s d = .ok text →
    text = Artifact.blocksIfAny (((g.constraints.map (Checks.ofConstraint g s) ++
      g.subtypeRules.map (Checks.ofSubtypeRule g s) ++
      g.entities.map (Checks.ofIdentifier g s)).filterMap (·.block?)).map (·.render d))

/-- The primary key of the table of an entity has a name. -/
def Schema.NamesKey (s : Schema) (entity : Nat) : Prop :=
  ∀ t, s.tableOf entity = .ok t → "" ∉ t.primaryKey

/-- Where rows of an entity are counted, the primary key of its table has a name. -/
structure Graph.CountedNamed (g : Graph) (s : Schema) : Prop where
  constraints : ∀ c ∈ g.constraints, ∀ target count relationship,
    c.demand = .minCount target count relationship → s.NamesKey c.entity
  rules : ∀ rule ∈ g.subtypeRules, ∀ target count, rule.predicate = some (.related target count) →
    (∃ r ∈ g.relationships, r.Links rule.subtype target) → s.NamesKey rule.subtype

/-- The name of a table may be one. -/
theorem Mapping.isTableName_name {doc : Document} {g : Graph} (compiled : Compiled doc g) {t : Table}
    (mem : t ∈ (Schema.ofGraph g).tables) : IsTableName t.name := by
  obtain ⟨rest, isAppend⟩ := exists_name_eq_append compiled mem
  rw [isAppend]
  exact isTableName_append (by simp) (isAppend ▸ isPlain_name compiled mem)

/-- The names of the columns that a foreign key links are plain. -/
theorem Mapping.KeySound.plain {g : Graph} {t : Table} (mem : t ∈ (Schema.ofGraph g).tables)
    {entity : Nat} {k : ForeignKey} (sound : KeySound g entity t.columns k) :
    Name.IsPlain k.column ∧ Name.IsPlain k.refColumn := by
  obtain ⟨c, cMem, named⟩ := sound.column
  obtain ⟨r, -, -, -, -, refColumn⟩ := sound.made
  refine ⟨named ▸ (columnSound_of_mem mem cMem).plain, ?_⟩
  rw [refColumn]
  exact (columnSound_primaryKey (g := g)).plain

namespace Checks

/-- The block of a check counts as it should when its query does. -/
theorem countsAs_render_iff {g : Graph} {s : Schema} {d : Dialect}
    {entity target relationship count : Nat} {parent parentKey child childKey : String} :
    CountsAs g s d entity target relationship count
        ((CheckBlock.checked (.minCount parent parentKey child childKey count)
          (g.countRule entity target count)).render d) ↔
      CountsBelow s d entity target relationship count
        ((Check.minCount parent parentKey child childKey count).render d) := by
  constructor
  · rintro ⟨query, same, counts⟩
    have texts : ("-- min-count: " ++ g.countRule entity target count ++ "\n" ++
        (Check.minCount parent parentKey child childKey count).render d).toList =
        ("-- min-count: " ++ g.countRule entity target count ++ "\n" ++ query).toList :=
      congrArg String.toList same
    simp only [String.toList_append, List.append_assoc, List.append_cancel_left_eq] at texts
    rwa [String.toList_injective texts]
  · exact fun counts => ⟨_, rfl, counts⟩

/-- A block with a check differs from one that tells that there is none, in its second line. -/
theorem render_checked_ne {d : Dialect} {parent parentKey child childKey rule : String} {count : Nat}
    (target subtype : String) :
    (CheckBlock.checked (.minCount parent parentKey child childKey count) rule).render d ≠
      (CheckBlock.untestable target subtype rule).render d := by
  intro same
  have texts : ("-- min-count: " ++ rule ++ "\n" ++
      (Check.minCount parent parentKey child childKey count).render d).toList =
      ("-- min-count: " ++ rule ++ "\n-- not testable: no foreign key links " ++ target ++ " to " ++
        subtype).toList := congrArg String.toList same
  simp only [String.toList_append, List.append_assoc, List.append_cancel_left_eq,
    toList_render_minCount] at texts
  have second := congrArg (fun cs => cs[1]?) texts
  simp at second

/-- A block counts what it should just when the primary key of the entity has a name, and it does not
tell that the rule cannot be checked. -/
structure Counting (g : Graph) (s : Schema) (d : Dialect) (entity target relationship count : Nat)
    (block : CheckBlock) : Prop where
  counts : s.NamesKey entity →
    CountsAs g s d entity target relationship count (block.render d)
  named : ∀ other, CountsAs g s d entity target other count (block.render d) → s.NamesKey entity
  tellsNot : ¬TellsUntestable g entity target count (block.render d)

theorem blocksOf_eq_ok {steps : List Step} {blocks : List CheckBlock}
    (made : blocksOf steps = .ok blocks) : blocks = steps.filterMap (·.block?) := by
  induction steps generalizing blocks with
  | nil =>
    cases made
    rfl
  | cons step rest ih =>
    obtain ⟨block, outcome, made⟩ := of_bind_eq_ok made
    obtain ⟨later, others, made⟩ := of_bind_eq_ok made
    cases made
    rw [ih others, List.filterMap_cons, Step.block?, outcome]
    cases block <;> rfl

section

variable {doc : Document} {g : Graph} (compiled : Compiled doc g)

include compiled

/-- The check for a relationship that links two entities counts what it should when the primary key
of the entity has a name, and it is no query otherwise. -/
theorem exists_counting {entity target : Nat} {r : Relationship} (mem : r ∈ g.relationships)
    (links : r.Links entity target) (count : Nat) : ∃ check,
      minCount? (Schema.ofGraph g) entity r.index count = .ok (some check) ∧
      ∀ d ∈ Dialect.usual, Counting g (Schema.ofGraph g) d entity target r.index count
        (.checked check (g.countRule entity target count)) := by
  obtain ⟨rfl, rfl⟩ := Relationship.links_iff.mp links
  obtain ⟨k, child, parent, found, kMem, isChild, isParent, refTable, made⟩ :=
    exists_minCount?_eq compiled mem count
  obtain ⟨parentMem, -⟩ := Schema.of_tableOf isParent
  obtain ⟨childMem, -⟩ := Schema.of_tableOf isChild
  have sound := (Mapping.tableSound_of_mem compiled childMem).2.keys k kMem
  obtain ⟨u, -, named, -, primary⟩ := sound.refers compiled
  obtain rfl := Option.some.inj (refTable.symm.trans named)
  obtain ⟨childPlain, parentPlain⟩ := sound.plain childMem
  have parentName := Mapping.isTableName_name compiled parentMem
  have childName := Mapping.isTableName_name compiled childMem
  have namesKey : (Schema.ofGraph g).NamesKey r.referred ↔ k.refColumn ≠ "" := by
    constructor
    · exact fun keyNamed empty => keyNamed parent isParent (by simp [primary, empty])
    · intro filled t isTable
      obtain rfl := Except.ok.inj (isTable.symm.trans isParent)
      simpa [primary] using filled.symm
  refine ⟨_, made, fun d usual => ⟨fun keyNamed => ?_, fun other counts => ?_,
    render_checked_ne _ _⟩⟩
  · refine countsAs_render_iff.mpr ⟨k, parent, child,
      countBelow parent.name k.refColumn child.name k.column count, found, isParent, isChild, kMem,
      refTable, ofText?_minCount usual parentName childName parentPlain childPlain
        (namesKey.mp keyNamed) sound.filled, rfl, fun V _ dom db counts keyed => ?_⟩
    rw [count?_countBelow counts]
    refine congrArg some (List.countP_congr fun row rowMem => ?_)
    rw [ForeignKey.countP_eq_countReferring refTable primary (keyed parent parentMem).1 rowMem]
  · obtain ⟨-, -, -, st, -, -, -, -, -, isQuery, -⟩ := countsAs_render_iff.mp counts
    refine namesKey.mpr fun empty => ?_
    rw [empty, ofText?_unnamed usual parentName childName childPlain sound.filled] at isQuery
    contradiction

/-- What the check of a constraint on a count comes to. -/
theorem ofConstraint_eq {text : String} (compiles : compile text = .ok g) {c : Constraint}
    (mem : c ∈ g.constraints) {target count relationship : Nat}
    (demand : c.demand = .minCount target count relationship) :
    ∃ r ∈ g.relationships, r.index = relationship ∧ r.Links c.entity target ∧ ∃ block,
      (ofConstraint g (Schema.ofGraph g) c).outcome = .ok (some block) ∧
      ∀ d ∈ Dialect.usual,
        Counting g (Schema.ofGraph g) d c.entity target relationship count block := by
  have grounds := grounds_of_compile compiles c mem
  rw [Draft.Grounds, demand] at grounds
  obtain ⟨r, rMem, rfl, linked⟩ := grounds
  have links := Draft.links_iff.mp linked
  obtain ⟨check, counted, counting⟩ := exists_counting compiled rMem links count
  have words : g.rationale c = g.countRule c.entity target count := by
    rw [Graph.rationale, demand]
    rfl
  refine ⟨r, rMem, rfl, links, _, ?_, counting⟩
  simp only [ofConstraint, demand, counted, words, Except.mapError, bind, Except.bind]
  rfl

/-- The first relationship that links two entities gives the check of a count. -/
theorem firstCount?_eq (entity target count : Nat) {rs : List Relationship}
    (subset : rs ⊆ g.relationships) : firstCount? (Schema.ofGraph g) entity target count rs =
      match rs.find? (links · entity target) with
      | none => .ok none
      | some r => minCount? (Schema.ofGraph g) entity r.index count := by
  induction rs with
  | nil => rfl
  | cons r rest ih =>
    rw [firstCount?, List.find?_cons]
    cases linked : links r entity target with
    | false => exact ih fun _ mem => subset (List.mem_cons_of_mem _ mem)
    | true =>
      obtain ⟨check, counted, -⟩ :=
        exists_counting compiled (subset List.mem_cons_self) (links_iff.mp linked) count
      simp only [counted, bind, Except.bind]
      rfl

/-- What the check of a subtype rule on a count comes to. -/
theorem ofSubtypeRule_cases {rule : SubtypeRule} {target count : Nat}
    (predicate : rule.predicate = some (.related target count)) :
    (∃ r ∈ g.relationships, r.Links rule.subtype target ∧ ∃ block,
      (ofSubtypeRule g (Schema.ofGraph g) rule).outcome = .ok (some block) ∧
      ∀ d ∈ Dialect.usual,
        Counting g (Schema.ofGraph g) d rule.subtype target r.index count block) ∨
    ((¬∃ r ∈ g.relationships, r.Links rule.subtype target) ∧
      (ofSubtypeRule g (Schema.ofGraph g) rule).outcome =
        .ok (some (.untestable (g.entityName target) (g.entityName rule.subtype)
          (g.countRule rule.subtype target count)))) := by
  have first := firstCount?_eq compiled rule.subtype target count
    (List.Subset.refl g.relationships)
  simp only [ofSubtypeRule, predicate]
  cases found : g.relationships.find? (links · rule.subtype target) with
  | none =>
    rw [found] at first
    rw [first]
    refine .inr ⟨?_, rfl⟩
    rintro ⟨r, mem, linked⟩
    exact List.find?_eq_none.mp found r mem (links_iff.mpr linked)
  | some r =>
    have mem := List.mem_of_find?_eq_some found
    have linked : r.Links rule.subtype target := links_iff.mp (List.find?_some found :)
    obtain ⟨check, counted, counting⟩ := exists_counting compiled mem linked count
    rw [found] at first
    rw [first.trans counted]
    exact .inl ⟨r, mem, linked, _, rfl, counting⟩

end

end Checks

/-- Where a rule on a count is checked as it should be, the primary key of the entity has a name. -/
theorem countedNamed_of_countsChecked {text : String} {g : Graph} (compiles : compile text = .ok g)
    {d : Dialect} (usual : d ∈ Dialect.usual) (checked : g.CountsChecked (Schema.ofGraph g) d) :
    g.CountedNamed (Schema.ofGraph g) := by
  obtain ⟨doc, -, compiled⟩ := compiled_of_compile compiles
  constructor
  · intro c mem target count relationship demand
    obtain ⟨-, -, -, -, block, outcome, counting⟩ :=
      Checks.ofConstraint_eq compiled compiles mem demand
    obtain ⟨-, found, made, counts⟩ := checked.constraints c mem target count relationship demand
    obtain rfl : block = found := by simpa [outcome] using made
    exact (counting d usual).named _ counts
  · intro rule mem target count predicate linked
    obtain ⟨found, made, counted, -⟩ := checked.rules rule mem target count predicate
    obtain ⟨other, -, -, counts⟩ := counted.mpr linked
    rcases Checks.ofSubtypeRule_cases compiled predicate with
      ⟨r, -, -, block, outcome, counting⟩ | ⟨unlinked, -⟩
    · obtain rfl : block = found := by simpa [outcome] using made
      exact (counting d usual).named _ counts
    · exact absurd linked unlinked

end FactModel
