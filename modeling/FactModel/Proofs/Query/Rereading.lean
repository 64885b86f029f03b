import FactModel.Proofs.Query.Literals
import FactModel.Proofs.Sql.Selecting

/-!
# Queries are read as they are written

The text of a query is read back as that query, when the names in it stand for columns and its literal
holds nothing that it must not hold.  When one of them does not, no query that compares with the
literal is read.
-/

namespace FactModel

open Sql Text

/-! ## What a text is read for -/

/-- A selection whose columns stand for columns where they are written. -/
def Selection.Readable (d : Dialect) : Selection → Prop
  | .all | .count _ => True
  | .column name => Shows d (selectionWords (.ofName d.grammar)) name
  | .least name _ | .greatest name _ => Shows d [] name

/-- A query whose columns stand for columns where they are written, and whose literal holds nothing
that it must not hold. -/
structure Query.Readable (d : Dialect) (q : Query) : Prop where
  selection : q.selection.Readable d
  condition : ∀ e ∈ q.condition,
    Shows d conditionWords e.column ∧ e.value.Harmless (.ofName d.grammar)

/-- The condition that a column equals a value. -/
def equalTo (column : String) (value : Sql.Term) : Sql.Condition :=
  { left := .atom (.column none column), operator := .equal, right := value }

/-- The query that a text should be read for. -/
def Query.statement (q : Query) : Sql.Statement :=
  { selection := q.selection
    source := { table := q.source, as := none }
    condition := q.condition.map fun e => equalTo e.column (.atom (.literal e.value)) }

/-- A literal for a value: a number is written like one. -/
def Literal.Proper : Literal → Prop
  | .number digits => isNumeric digits = true
  | .text _ => True

theorem Literal.proper_ofValue (type : SemanticType) (value : String) :
    (Literal.ofValue type value).Proper := by
  unfold ofValue
  extract_lets bare
  split
  · next isBare => exact isBare.2
  · trivial

/-- The names in a selection are plain, and the result of a function has one. -/
def Selection.Plain : Selection → Prop
  | .all => True
  | .column name => Name.IsPlain name
  | .count as => Name.IsPlain as ∧ as ≠ ""
  | .least name as | .greatest name as => Name.IsPlain name ∧ Name.IsPlain as ∧ as ≠ ""

/-- The names in a query are plain, and that of its source is no keyword. -/
structure Query.Plain (q : Query) : Prop where
  selection : q.selection.Plain
  source : IsTableName q.source
  condition : ∀ e ∈ q.condition, Name.IsPlain e.column ∧ e.value.Proper

/-! ## Tokens -/

/-- The tokens of a selection. -/
def Selection.tokens (d : Dialect) : Selection → List Token
  | .all => [.sign "*"]
  | .column name => nameTokens d name
  | .count as => [.word "COUNT", .sign "(", .sign "*", .sign ")", .word "AS"] ++ nameTokens d as
  | .least name as =>
    [.word "MIN", .sign "("] ++ nameTokens d name ++ [.sign ")", .word "AS"] ++ nameTokens d as
  | .greatest name as =>
    [.word "MAX", .sign "("] ++ nameTokens d name ++ [.sign ")", .word "AS"] ++ nameTokens d as

section Reading

variable {d : Dialect} (usual : d ∈ Dialect.usual)

include usual

/-- The name of the result of a function is read in front of the source. -/
theorem reads_named {as : String} (plain : Name.IsPlain as) (rest : List Char) :
    Reads d.lexis (")".toList ++ ' ' :: ("AS".toList ++ ' ' :: ((d.quote as).toList ++
      ' ' :: ("FROM".toList ++ ' ' :: rest)))) (' ' :: ("FROM".toList ++ ' ' :: rest))
      ([.sign ")"] ++ ([.word "AS"] ++ nameTokens d as)) := by
  have space : isSpace ' ' = true := by decide
  have blank : ' ' ∈ delimiters := by simp [delimiters]
  refine (Reads.bracket usual ")" (by simp)).append (.space space ?_)
  refine (Reads.keyword usual "AS" (by simp [usedWords]) blank).append (.space space ?_)
  exact .quote usual plain blank
    (unpaired_follower usual as rest (by simp [followers]) space blank)

/-- A function of a column and the name of its result are read in front of the source. -/
theorem reads_extreme (word : String) {name as : String} (mem : word ∈ usedWords)
    (namePlain : Name.IsPlain name) (asPlain : Name.IsPlain as) (rest : List Char) :
    Reads d.lexis (word.toList ++ '(' :: ((d.quote name).toList ++ ')' :: ' ' ::
      ("AS".toList ++ ' ' :: ((d.quote as).toList ++ ' ' :: ("FROM".toList ++ ' ' :: rest)))))
      (' ' :: ("FROM".toList ++ ' ' :: rest))
      ([.word word] ++ ([.sign "("] ++ (nameTokens d name ++
        ([.sign ")"] ++ ([.word "AS"] ++ nameTokens d as))))) := by
  have unpaired := unpaired_sign usual name (' ' :: ("AS".toList ++ ' ' :: ((d.quote as).toList ++
    ' ' :: ("FROM".toList ++ ' ' :: rest)))) (List.forall_mem_nil _)
    (by simp : ')' ∈ [')', '.', ';', '='])
  refine (Reads.keyword usual word mem (by simp [delimiters])).append ?_
  refine (Reads.bracket usual "(" (by simp)).append ?_
  refine (Reads.quote usual namePlain (by simp [delimiters]) unpaired).append ?_
  exact reads_named usual asPlain rest

theorem reads_selection {s : Selection} (plain : s.Plain) (rest : List Char) :
    Reads d.lexis ((s.render d).toList ++ ' ' :: ("FROM".toList ++ ' ' :: rest))
      (' ' :: ("FROM".toList ++ ' ' :: rest)) (s.tokens d) := by
  have blank : ' ' ∈ delimiters := by simp [delimiters]
  cases s with
  | all => exact .bracket usual "*" (by simp)
  | column name =>
    exact .quote usual plain blank
      (unpaired_follower usual name rest (by simp [followers]) (by decide) blank)
  | count as =>
    have text : (Selection.count as).render d = "COUNT" ++ "(" ++ "*" ++ ") AS " ++ d.quote as := rfl
    have read := (Reads.bracket usual "*" (by simp)).append (reads_named usual plain.1 rest)
    have function := (Reads.bracket usual "(" (by simp)).append read
    have whole := (Reads.keyword usual "COUNT" (by simp [usedWords])
      (by simp [delimiters] : '(' ∈ delimiters)).append function
    simpa [text, Selection.tokens] using whole
  | least name as =>
    have text : (Selection.least name as).render d =
      "MIN(" ++ d.quote name ++ ") AS " ++ d.quote as := rfl
    have read := reads_extreme usual "MIN" (by simp [usedWords]) plain.1 plain.2.1 rest
    simpa [text, Selection.tokens] using read
  | greatest name as =>
    have text : (Selection.greatest name as).render d =
      "MAX(" ++ d.quote name ++ ") AS " ++ d.quote as := rfl
    have read := reads_extreme usual "MAX" (by simp [usedWords]) plain.1 plain.2.1 rest
    simpa [text, Selection.tokens] using read

/-- A query is read up to its source. -/
theorem reads_source {q : Query} (plain : q.Plain) {mark : Char} (rest : List Char)
    (ends : mark ∈ delimiters) (unpaired : Unpaired d.lexis q.source (mark :: rest)) :
    Reads d.lexis ("SELECT".toList ++ ' ' :: ((q.selection.render d).toList ++
      ' ' :: ("FROM".toList ++ ' ' :: ((d.quote q.source).toList ++ mark :: rest)))) (mark :: rest)
      ([.word "SELECT"] ++ (q.selection.tokens d ++ ([.word "FROM"] ++ nameTokens d q.source))) := by
  have space : isSpace ' ' = true := by decide
  have blank : ' ' ∈ delimiters := by simp [delimiters]
  refine (Reads.keyword usual "SELECT" (by simp [usedWords]) blank).append (.space space ?_)
  refine (reads_selection usual plain.selection _).append (.space space ?_)
  refine (Reads.keyword usual "FROM" (by simp [usedWords]) blank).append (.space space ?_)
  exact .quote usual plain.source.plain ends unpaired

/-- A condition is read up to the value that a column is compared with. -/
theorem reads_condition {column : String} (plain : Name.IsPlain column) (rest : List Char) :
    Reads d.lexis (' ' :: ("WHERE".toList ++ ' ' :: ((d.quote column).toList ++
      ' ' :: ("=".toList ++ ' ' :: rest)))) rest
      ([.word "WHERE"] ++ (nameTokens d column ++ ([.sign "="] ++ []))) := by
  have space : isSpace ' ' = true := by decide
  have blank : ' ' ∈ delimiters := by simp [delimiters]
  have unpaired : Unpaired d.lexis column ([' '] ++ '=' :: ' ' :: rest) :=
    unpaired_sign usual column _ (by simp [space]) (by simp)
  refine .space space ((Reads.keyword usual "WHERE" (by simp [usedWords]) blank).append ?_)
  refine .space space ((Reads.quote usual plain blank unpaired).append (.space space ?_))
  exact (Reads.comparison usual "=" (by simp)).append (.space space (.nil rest))

end Reading

/-! ## What is read -/

section Statements

variable {d : Dialect} {rest : List Token}

theorem selectionAt_nameTokens (g : Grammar) (name : String) :
    selectionAt g (nameTokens d name ++ .word "FROM" :: rest) =
      (columnAt g (selectionWords g) (nameTokens d name ++ .word "FROM" :: rest)).map
        fun (name, rest) => (.column name, rest) := by
  have noColumn (others : List String) : columnAt g others (.word "FROM" :: rest) = none := by
    have keyword : mayBeName "FROM" = false := by decide
    simp [columnAt, isColumn, keyword]
  have noFunction (ts : List Token) : functionAt g (upper "FROM") ts = none := by
    have same : upper "FROM" = "FROM" := by decide
    rw [same]
    rfl
  unfold nameTokens
  split
  · rw [List.nil_append, noColumn]
    unfold selectionAt
    split
    · next inside same => cases same
    · next w inside same =>
      obtain ⟨⟨rfl⟩, rfl⟩ := List.cons.inj same
      exact noFunction inside
    · rw [noColumn]
  · split <;> rfl

/-- A selection is read as it is written. -/
theorem selectionAt_tokens {s : Selection} (plain : s.Plain) (readable : s.Readable d) :
    selectionAt (.ofName d.grammar) (s.tokens d ++ .word "FROM" :: rest) =
      some (s, .word "FROM" :: rest) := by
  cases s with
  | all => rfl
  | column name =>
    have column : columnAt (.ofName d.grammar) (selectionWords (.ofName d.grammar))
        (nameTokens d name ++ .word "FROM" :: rest) = some (name, .word "FROM" :: rest) :=
      columnAt_nameTokens readable
    rw [Selection.tokens, selectionAt_nameTokens, column]
    rfl
  | count as =>
    simp (disch := decide) [Selection.tokens, selectionAt_function, functionAt, skipSign,
      named_tokens plain.2]
  | least name as =>
    have column (ts : List Token) : columnAt (.ofName d.grammar) [] (nameTokens d name ++ ts) =
      some (name, ts) := columnAt_nameTokens readable
    simp (disch := decide) [Selection.tokens, selectionAt_function, functionAt, column,
      named_tokens plain.2.2]
  | greatest name as =>
    have column (ts : List Token) : columnAt (.ofName d.grammar) [] (nameTokens d name ++ ts) =
      some (name, ts) := columnAt_nameTokens readable
    simp (disch := decide) [Selection.tokens, selectionAt_function, functionAt, column,
      named_tokens plain.2.2]

/-- Nothing is read from a selection whose columns do not stand for columns. -/
theorem readable_of_selectionAt {s : Selection} {found : Selection × List Token}
    (read : selectionAt (.ofName d.grammar) (s.tokens d ++ .word "FROM" :: rest) = some found) :
    s.Readable d := by
  have extreme {name : String} {ts : List Token} {α : Type}
      {f : String × List Token → Option α} {a : α}
      (read : (columnAt (.ofName d.grammar) [] (nameTokens d name ++ .sign ")" :: ts)).bind f =
        some a) : Shows d [] name := by
    obtain ⟨column, reads, -⟩ := Option.bind_eq_some_iff.mp read
    exact shows_of_columnAt rfl reads
  cases s with
  | all | count as => trivial
  | column name =>
    rw [Selection.tokens, selectionAt_nameTokens] at read
    obtain ⟨column, reads, -⟩ := Option.map_eq_some_iff.mp read
    refine shows_of_columnAt ?_ reads
    have keyword : mayBeName "FROM" = false := by decide
    simp [columnAt, isColumn, keyword]
  | least name as =>
    simp only [Selection.tokens, List.cons_append, List.nil_append, List.append_assoc,
      selectionAt_function (by decide : "MIN" ∈ usedWords), functionAt] at read
    exact extreme read
  | greatest name as =>
    simp only [Selection.tokens, List.cons_append, List.nil_append, List.append_assoc,
      selectionAt_function (by decide : "MAX" ∈ usedWords), functionAt] at read
    exact extreme read

/-- A name is read as a column or not at all. -/
theorem atomAt_nameTokens (g : Grammar) (name : String) :
    atomAt g (nameTokens d name ++ .sign "=" :: rest) = do
      let (name, rest) ← columnAt g conditionWords (nameTokens d name ++ .sign "=" :: rest)
      match skipSign "." rest with
      | none => return (.column none name, rest)
      | some rest =>
        let (member, rest) ← memberAt rest
        return (.column (some name) member, rest) := by
  unfold nameTokens
  split
  · rfl
  · split <;> rfl

theorem termAt_nameTokens {name : String} (shows : Shows d conditionWords name) :
    termAt (.ofName d.grammar) (nameTokens d name ++ .sign "=" :: rest) =
      some (.atom (.column none name), .sign "=" :: rest) := by
  have column : columnAt (.ofName d.grammar) conditionWords
      (nameTokens d name ++ .sign "=" :: rest) = some (name, .sign "=" :: rest) :=
    columnAt_nameTokens shows
  rw [termAt, atomAt_nameTokens, column]
  rfl

theorem shows_of_termAt {name : String} {found : Sql.Term × List Token}
    (read : termAt (.ofName d.grammar) (nameTokens d name ++ .sign "=" :: rest) = some found) :
    Shows d conditionWords name := by
  cases column : columnAt (.ofName d.grammar) conditionWords
      (nameTokens d name ++ .sign "=" :: rest) with
  | some reads => exact shows_of_columnAt rfl column
  | none =>
    -- What is no column is no number of rows either, since no parenthesis opens.
    have noCount : countAt (.ofName d.grammar) (nameTokens d name ++ .sign "=" :: rest) = none := by
      unfold nameTokens
      split
      · rfl
      · split <;> rfl
    rw [termAt, atomAt_nameTokens, column] at read
    simp [noCount] at read

/-- The value that a column is compared with is read behind the column. -/
theorem conditionAt_tokens {column : String} (shows : Shows d conditionWords column) :
    conditionAt (.ofName d.grammar) (.word "WHERE" :: (nameTokens d column ++ .sign "=" :: rest)) =
      (termAt (.ofName d.grammar) rest).map fun (value, rest) =>
        (some (equalTo column value), rest) := by
  rw [conditionAt, skipWord_used (by decide)]
  simp only [termAt_nameTokens shows, operatorAt, Option.bind_eq_bind, Option.bind_some]
  cases termAt (.ofName d.grammar) rest <;> rfl

theorem shows_of_conditionAt {column : String} {found : Option Sql.Condition × List Token}
    (read : conditionAt (.ofName d.grammar)
      (.word "WHERE" :: (nameTokens d column ++ .sign "=" :: rest)) = some found) :
    Shows d conditionWords column := by
  rw [conditionAt, skipWord_used (by decide)] at read
  obtain ⟨left, reads, -⟩ := Option.bind_eq_some_iff.mp read
  exact shows_of_termAt reads

/-- The tokens of a query up to its source. -/
def Query.front (d : Dialect) (q : Query) : List Token :=
  [.word "SELECT"] ++ (q.selection.tokens d ++ ([.word "FROM"] ++ nameTokens d q.source))

/-- A query is read as it is written up to the condition. -/
theorem statement?_front {q : Query} (plain : q.Plain) (readable : q.selection.Readable d)
    (ends : nameAt rest = none) :
    statement? (.ofName d.grammar) (q.front d ++ rest) =
      (conditionAt (.ofName d.grammar) rest).bind fun (condition, rest) =>
        let st : Sql.Statement :=
          { selection := q.selection, source := { table := q.source, as := none }, condition }
        if rest = [.sign ";"] ∧ st.isScoped = true then some st else none := by
  simp (disch := decide) [Query.front, statement?, skipWord_used,
    selectionAt_tokens plain.selection readable, sourceAt_nameTokens plain.source ends]

theorem readable_of_statement? {q : Query} {st : Sql.Statement}
    (read : statement? (.ofName d.grammar) (q.front d ++ rest) = some st) :
    q.selection.Readable d := by
  have select := skipWord_used (by decide : "SELECT" ∈ usedWords)
  simp only [Query.front, statement?, List.append_assoc, List.cons_append, List.nil_append, select,
    Option.bind_eq_bind, Option.bind_some] at read
  obtain ⟨selection, reads, -⟩ := Option.bind_eq_some_iff.mp read
  exact readable_of_selectionAt reads

/-- A query is read as a condition behind what is read as it is written. -/
theorem of_statement?_front {q : Query} (plain : q.Plain) (ends : nameAt rest = none)
    {st : Sql.Statement} (read : statement? (.ofName d.grammar) (q.front d ++ rest) = some st) :
    q.selection.Readable d ∧ st.isScoped = true ∧ st.selection = q.selection ∧
      st.source = { table := q.source, as := none } ∧
      conditionAt (.ofName d.grammar) rest = some (st.condition, [.sign ";"]) := by
  have readable := readable_of_statement? read
  rw [statement?_front plain readable ends] at read
  obtain ⟨⟨condition, behind⟩, reads, made⟩ := Option.bind_eq_some_iff.mp read
  simp only at made
  split at made
  · next ended =>
    cases made
    exact ⟨readable, ended.2, rfl, rfl, ended.1 ▸ reads⟩
  · contradiction

/-- A literal is read from a text, a number, or a number behind a minus sign. -/
theorem literal_cases {g : Grammar} {ts : List Token} {value : Literal}
    (read : termAt g ts = some (.atom (.literal value), rest)) :
    (∃ text, ts = .text text :: rest ∧ value = .text text.toList) ∨
      (∃ digits, ts = .number digits :: rest ∧ value = .number digits.toList) ∨
      ∃ digits, ts = .sign "-" :: .number digits :: rest ∧
        value = .number ('-' :: digits.toList) := by
  unfold termAt at read
  split at read
  · next a left atom =>
    cases read
    unfold atomAt at atom
    split at atom
    · next text left =>
      cases atom
      exact .inl ⟨text, rfl, rfl⟩
    · next digits left =>
      cases atom
      exact .inr (.inl ⟨digits, rfl, rfl⟩)
    · next digits left =>
      cases atom
      exact .inr (.inr ⟨digits, rfl, rfl⟩)
    · obtain ⟨⟨name, left⟩, -, atom⟩ := Option.bind_eq_some_iff.mp atom
      simp only at atom
      split at atom
      · cases atom
      · obtain ⟨member, -, atom⟩ := Option.bind_eq_some_iff.mp atom
        cases atom
  · simp [countAt, Option.bind_eq_some_iff] at read

end Statements

section Literals

theorem numeric_cases {digits : List Char} (numeric : Literal.isNumeric digits = true) :
    Literal.isUnsigned digits = true ∨
      ∃ unsigned, digits = '-' :: unsigned ∧ Literal.isUnsigned unsigned = true := by
  unfold Literal.isNumeric at numeric
  split at numeric
  · next cs => exact .inr ⟨cs, rfl, numeric⟩
  · exact .inl numeric

variable {d : Dialect} (usual : d ∈ Dialect.usual)

include usual

/-- A literal that holds nothing that it must not hold is read as it is written. -/
theorem reads_literal {value : Literal} (proper : value.Proper)
    (harmless : value.Harmless (.ofName d.grammar)) :
    ∃ ts, Reads d.lexis (value.render.toList ++ [';']) [';'] ts ∧
      ∀ rest, termAt (.ofName d.grammar) (ts ++ rest) = some (.atom (.literal value), rest) := by
  cases value with
  | text value =>
    have clean : d.lexis.backslash = true → strays value = 0 :=
      fun escapes => Literal.strays_eq_zero_iff.mpr (harmless.1 escapes)
    have read : Reads d.lexis _ [';'] _ := Reads.text usual clean (by simp)
    refine ⟨[.text (String.ofList value)], ?_, fun rest => ?_⟩
    · simpa [Literal.render] using read
    · simp [termAt, atomAt]
  | number digits =>
    rcases numeric_cases proper with unsigned | ⟨digits, rfl, unsigned⟩
    · have read : Reads d.lexis _ [';'] _ := Reads.number usual unsigned harmless
      refine ⟨[.number (String.ofList digits)], by simpa [Literal.render] using read, fun rest => ?_⟩
      simp [termAt, atomAt]
    · have read := (Reads.minus usual [] unsigned).append <|
        Reads.number usual unsigned fun c mem => harmless c (List.mem_cons_of_mem _ mem)
      refine ⟨[.sign "-", .number (String.ofList digits)], ?_, fun rest => ?_⟩
      · simpa [Literal.render] using read
      · simp [termAt, atomAt]

section

variable {bound : Nat} {ts : List Token}

/-- A text that is read as it is written has no backslash that is taken for an escape. -/
theorem not_hasStray_of_termAt {value : List Char}
    (read : readTokens d.lexis bound ('\'' :: (Literal.escape value ++ '\'' :: [';'])) = some ts)
    (term : termAt (.ofName d.grammar) ts = some (.atom (.literal (.text value)), [.sign ";"]))
    (escapes : d.lexis.backslash = true) : ¬Literal.HasStray value := by
  have mark : ∀ d ∈ Dialect.usual, d.lexis.textMarks.contains '\'' = true := by decide
  obtain ⟨text, rfl, same⟩ | ⟨digits, -, same⟩ | ⟨digits, -, same⟩ := literal_cases term
  · obtain ⟨rest, left, reads, readRest⟩ := exists_readToken_eq (by decide) rfl read
    rw [readToken, if_neg (by decide), if_pos (mark d usual), escapes] at reads
    obtain ⟨⟨value', after⟩, readValue, made⟩ := Option.map_eq_some_iff.mp reads
    cases made
    obtain rfl : value = value' := by simpa using same
    refine Literal.strays_eq_zero_iff.mp (strays_eq_zero_of_readText readValue ?_)
    -- Something is left for the semicolon to be read from.
    cases rest with
    | nil => cases left <;> simp [readTokens] at readRest
    | cons c cs => simp
  · cases same
  · cases same

/-- A number that is read as it is written has ASCII digits only. -/
theorem isDigit_of_termAt {digits : List Char} (numeric : Literal.isNumeric digits = true)
    (enough : (digits ++ [';']).length ≤ bound)
    (read : readTokens d.lexis bound (digits ++ [';']) = some ts)
    (term : termAt (.ofName d.grammar) ts = some (.atom (.literal (.number digits)), [.sign ";"])) :
    ∀ c ∈ digits, isDecimal c = true → c.isDigit = true := by
  rcases numeric_cases numeric with unsigned | ⟨unsigned, rfl, isUnsigned⟩
  · obtain ⟨text, -, same⟩ | ⟨text, rfl, same⟩ | ⟨text, -, same⟩ := literal_cases term
    · cases same
    · obtain rfl := Literal.number.inj same
      exact isDigit_of_readTokens usual unsigned read
    · obtain rfl := Literal.number.inj same
      obtain ⟨c, cs, isCons, decimal, -⟩ := cons_of_isUnsigned unsigned
      obtain ⟨rfl, -⟩ := List.cons.inj isCons
      exact absurd decimal (by decide)
  · obtain ⟨left, -, reads⟩ := Reads.minus usual [] isUnsigned bound enough
    have parts := reads.symm.trans read
    obtain ⟨more, readMore, rfl⟩ := Option.map_eq_some_iff.mp parts
    obtain ⟨text, isText, -⟩ | ⟨text, isNumber, -⟩ | ⟨text, isMore, same⟩ := literal_cases term
    · cases isText
    · cases isNumber
    · obtain rfl := (List.cons.inj isMore).2
      obtain rfl := (List.cons.inj (Literal.number.inj same)).2
      intro c mem decimal
      rcases List.mem_cons.mp mem with rfl | later
      · exact absurd decimal (by decide)
      · exact isDigit_of_readTokens usual isUnsigned readMore c later decimal

/-- A literal that is read as it is written holds nothing that it must not hold, when the text of the
query can be held. -/
theorem harmless_of_termAt {value : Literal} (proper : value.Proper)
    (enough : (value.render.toList ++ [';']).length ≤ bound)
    (read : readTokens d.lexis bound (value.render.toList ++ [';']) = some ts)
    (term : termAt (.ofName d.grammar) ts = some (.atom (.literal value), [.sign ";"]))
    (held : '\x00' ∈ value.render.toList → (Grammar.ofName d.grammar).holdsNull = true) :
    value.Harmless (.ofName d.grammar) := by
  cases value with
  | text value =>
    have written : (Literal.text value).render.toList ++ [';'] =
        '\'' :: (Literal.escape value ++ '\'' :: [';']) := by
      simp [Literal.render]
    rw [written] at read
    exact ⟨not_hasStray_of_termAt usual read term,
      fun mem => held (by simp [Literal.render, Literal.mem_escape, mem])⟩
  | number digits =>
    have written : (Literal.number digits).render.toList = digits := by
      simp [Literal.render]
    rw [written] at read enough
    exact isDigit_of_termAt usual proper enough read term

end

end Literals

/-! ## Whole queries -/

/-- The text of a condition, with the semicolon behind it. -/
def behindSource (d : Dialect) : Option Equality → List Char
  | none => [';']
  | some e => ' ' :: ("WHERE".toList ++ ' ' :: ((d.quote e.column).toList ++
      ' ' :: ("=".toList ++ ' ' :: (e.value.render.toList ++ [';']))))

theorem Query.toList_render (d : Dialect) (q : Query) :
    (q.render d).toList = "SELECT".toList ++ ' ' :: ((q.selection.render d).toList ++
      ' ' :: ("FROM".toList ++ ' ' :: ((d.quote q.source).toList ++
        behindSource d q.condition))) := by
  have text : q.render d = "SELECT " ++ q.selection.render d ++ " FROM " ++ d.quote q.source ++
      renderCondition d q.condition ++ ";" := rfl
  cases condition : q.condition with
  | none => simp [text, condition, renderCondition, behindSource]
  | some e =>
    have where_ : renderCondition d (some e) =
      " WHERE " ++ d.quote e.column ++ " = " ++ e.value.render := rfl
    simp [text, condition, where_, behindSource]

theorem null_not_mem_selection {d : Dialect} (usual : d ∈ Dialect.usual) {s : Selection}
    (plain : s.Plain) : '\x00' ∉ (s.render d).toList := by
  have absent {name : String} (plain : Name.IsPlain name) := null_not_mem_quote usual plain
  cases s with
  | all =>
    have text : Selection.all.render d = "*" := rfl
    simp [text]
  | column name => exact absent plain
  | count as =>
    have text : (Selection.count as).render d = "COUNT(*) AS " ++ d.quote as := rfl
    simp [text, absent plain.1]
  | least name as =>
    have text : (Selection.least name as).render d =
      "MIN(" ++ d.quote name ++ ") AS " ++ d.quote as := rfl
    simp [text, absent plain.1, absent plain.2.1]
  | greatest name as =>
    have text : (Selection.greatest name as).render d =
      "MAX(" ++ d.quote name ++ ") AS " ++ d.quote as := rfl
    simp [text, absent plain.1, absent plain.2.1]

theorem null_not_mem_digits {digits : List Char} (numeric : Literal.isNumeric digits = true) :
    '\x00' ∉ digits := by
  have unsigned {digits : List Char} (unsigned : Literal.isUnsigned digits = true) :
      '\x00' ∉ digits := by
    obtain ⟨whole, fraction, rfl, -, wholeDigits, rfl | ⟨more, rfl, -, digits⟩⟩ :=
      parts_of_isUnsigned unsigned
    · exact fun mem => absurd (wholeDigits _ (by simpa using mem)) (by decide)
    · intro mem
      rcases List.mem_append.mp mem with front | back
      · exact absurd (wholeDigits _ front) (by decide)
      · exact absurd (digits _ (by simpa using back)) (by decide)
  rcases numeric_cases numeric with whole | ⟨digits, rfl, whole⟩
  · exact unsigned whole
  · simpa using unsigned whole

section Whole

variable {d : Dialect} (usual : d ∈ Dialect.usual) {q : Query} (plain : q.Plain)

include usual plain

/-- The character that a text may not be able to hold can only be in a text of the condition. -/
theorem null_mem_render (mem : '\x00' ∈ (q.render d).toList) :
    ∃ e ∈ q.condition, ∃ text, e.value = .text text ∧ '\x00' ∈ text := by
  have absent {name : String} (plain : Name.IsPlain name) := null_not_mem_quote usual plain
  rw [Query.toList_render] at mem
  have inCondition : '\x00' ∈ behindSource d q.condition := by
    simpa [null_not_mem_selection usual plain.selection, absent plain.source.plain] using mem
  cases condition : q.condition with
  | none => simp [condition, behindSource] at inCondition
  | some e =>
    obtain ⟨isPlain, proper⟩ := plain.condition e condition
    have inValue : '\x00' ∈ e.value.render.toList := by
      simpa [condition, behindSource, absent isPlain] using inCondition
    cases value : e.value with
    | text text =>
      refine ⟨e, rfl, text, value, ?_⟩
      simpa [value, Literal.render, Literal.mem_escape] using inValue
    | number digits =>
      rw [value] at proper inValue
      exact absurd (by simpa [Literal.render] using inValue) (null_not_mem_digits proper)

/-- The tokens of a query without a condition. -/
theorem tokens_of_none (condition : q.condition = none) :
    tokens d.lexis (q.render d) = some (q.front d ++ [.sign ";"]) := by
  have unpaired : Unpaired d.lexis q.source ([] ++ [';']) :=
    unpaired_sign usual q.source [] (List.forall_mem_nil _) (by simp)
  have read := (reads_source usual plain [] (by simp [delimiters]) unpaired).append
    (Reads.semicolon usual)
  have text := q.toList_render d
  rw [condition, behindSource] at text
  rw [← text] at read
  exact read.tokens_eq_some

/-- The tokens of a query with a condition, up to the value that a column is compared with. -/
theorem tokens_of_some {e : Equality} (condition : q.condition = some e) :
    ∃ left, (e.value.render.toList ++ [';']).length ≤ left ∧ tokens d.lexis (q.render d) =
      (readTokens d.lexis left (e.value.render.toList ++ [';'])).map fun more =>
        q.front d ++ .word "WHERE" :: (nameTokens d e.column ++ .sign "=" :: more) := by
  have blank : ' ' ∈ delimiters := by simp [delimiters]
  have unpaired : Unpaired d.lexis q.source (' ' :: ("WHERE".toList ++ ' ' ::
      ((d.quote e.column).toList ++ ' ' :: ("=".toList ++ ' ' ::
        (e.value.render.toList ++ [';']))))) :=
    unpaired_follower usual q.source _ (by simp [followers]) (by decide) blank
  have read := (reads_source usual plain _ blank unpaired).append
    (reads_condition usual (plain.condition e condition).1 (e.value.render.toList ++ [';']))
  have text := q.toList_render d
  rw [condition, behindSource] at text
  rw [← text] at read
  obtain ⟨left, enough, lexed⟩ := read.tokens_eq
  refine ⟨left, enough, lexed.trans (congrArg (Option.map · _) (funext fun more => ?_))⟩
  simp [Query.front]

/-- A query that names columns by what stands for columns, and compares with a literal that holds
nothing that it must not hold, is read as it is written. -/
theorem Query.ofText?_render (readable : q.Readable d) :
    Sql.Statement.ofText? (.ofName d.grammar) (q.render d) = some q.statement := by
  have held : ¬('\x00' ∈ (q.render d).toList ∧ (Grammar.ofName d.grammar).holdsNull = false) := by
    rintro ⟨mem, notHeld⟩
    obtain ⟨e, isCondition, text, value, inText⟩ := null_mem_render usual plain mem
    have harmless := (readable.condition e isCondition).2
    rw [value] at harmless
    simp [harmless.2 inText] at notHeld
  have lexed (ts : List Token) (read : tokens d.lexis (q.render d) = some ts) :
      Sql.Statement.ofText? (.ofName d.grammar) (q.render d) =
        statement? (.ofName d.grammar) ts := by
    rw [Sql.Statement.ofText?, if_neg held]
    exact congrArg (Option.bind · (statement? (.ofName d.grammar))) read
  cases condition : q.condition with
  | none =>
    rw [lexed _ (tokens_of_none usual plain condition),
      statement?_front plain readable.selection rfl]
    simp [conditionAt, skipWord, skipAny, startsWith, Token.keyword?, statement, condition,
      Sql.Statement.isScoped]
  | some e =>
    obtain ⟨shows, harmless⟩ := readable.condition e condition
    obtain ⟨isPlain, proper⟩ := plain.condition e condition
    obtain ⟨left, enough, read⟩ := tokens_of_some usual plain condition
    obtain ⟨ts, reads, term⟩ := reads_literal usual proper harmless
    obtain ⟨last, -, lexed'⟩ := (reads.append (Reads.semicolon usual)) left enough
    rw [lexed', readTokens_nil, Option.map_some, Option.map_some, List.append_nil] at read
    rw [lexed _ read, statement?_front plain readable.selection rfl, conditionAt_tokens shows, term]
    simp [statement, condition, Sql.Statement.isScoped, equalTo, Term.inScope, Atom.inScope]

/-- What a query is read for, if it is read. -/
theorem Query.of_ofText? {st : Sql.Statement}
    (read : Sql.Statement.ofText? (.ofName d.grammar) (q.render d) = some st) :
    q.selection.Readable d ∧ st.isScoped = true ∧ st.selection = q.selection ∧
      st.source = { table := q.source, as := none } ∧ (q.condition = none → st.condition = none) ∧
      ∀ e ∈ q.condition, Shows d conditionWords e.column ∧
        ∃ value, st.condition = some (equalTo e.column value) ∧
          (value = .atom (.literal e.value) → e.value.Harmless (.ofName d.grammar)) := by
  unfold Sql.Statement.ofText? at read
  split at read
  · contradiction
  · next held =>
    obtain ⟨ts, lexed, read⟩ := Option.bind_eq_some_iff.mp read
    cases condition : q.condition with
    | none =>
      obtain rfl := Option.some.inj ((tokens_of_none usual plain condition).symm.trans lexed)
      obtain ⟨readable, inScope, selection, source, reads⟩ := of_statement?_front plain rfl read
      have ended : conditionAt (.ofName d.grammar) [.sign ";"] = some (none, [.sign ";"]) := rfl
      obtain ⟨noCondition, -⟩ := Prod.mk.inj (Option.some.inj (ended.symm.trans reads))
      exact ⟨readable, inScope, selection, source, fun _ => noCondition.symm, by simp⟩
    | some e =>
      obtain ⟨left, enough, reads⟩ := tokens_of_some usual plain condition
      obtain ⟨more, readMore, rfl⟩ := Option.map_eq_some_iff.mp (reads.symm.trans lexed)
      obtain ⟨readable, inScope, selection, source, reads⟩ := of_statement?_front plain rfl read
      have shows := shows_of_conditionAt reads
      rw [conditionAt_tokens shows] at reads
      obtain ⟨⟨value, behind⟩, term, same⟩ := Option.map_eq_some_iff.mp reads
      obtain ⟨isCondition, rfl⟩ := Prod.mk.inj same
      refine ⟨readable, inScope, selection, source, by simp, ?_⟩
      rintro e ⟨⟩
      refine ⟨shows, value, isCondition.symm, ?_⟩
      rintro rfl
      refine harmless_of_termAt usual (plain.condition e condition).2 enough readMore term
        fun mem => ?_
      have inText : '\x00' ∈ (q.render d).toList := by
        simp [Query.toList_render, condition, behindSource, mem]
      simpa [inText] using held

end Whole

end FactModel
