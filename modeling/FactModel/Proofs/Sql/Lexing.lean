import FactModel.Proofs.Number.Counts
import FactModel.Proofs.Text.Identifiers
import FactModel.Sql.Dialect
import FactModel.Sql.Literal
import FactModel.Sql.Token

/-!
# How written queries fall into tokens

Queries are written in keywords, plain names, signs and literals.  For each of these it is said which
tokens a lexer of the usual dialects reads, and what remains.  A query that is written piece by piece
is read piece by piece.
-/

namespace FactModel

/-- Whether the text of a query may hold the character U+0000.  Elsewhere the text ends in front of
it, or is refused. -/
def Sql.Grammar.holdsNull : Sql.Grammar → Bool
  | .mysql => true
  | .plain | .postgres | .sqlite => false

/-- The way a dialect forms tokens. -/
def Dialect.lexis (d : Dialect) : Sql.Lexis :=
  .ofGrammar (.ofName d.grammar)

namespace Sql

open Text Name

/-! ## Reading piece by piece -/

/-- A text begins with given tokens, and in front of what remains there is nothing else. -/
def Reads (l : Lexis) (cs rest : List Char) (ts : List Token) : Prop :=
  ∀ bound, cs.length ≤ bound → ∃ left, rest.length ≤ left ∧
    readTokens l bound cs = (readTokens l left rest).map (ts ++ ·)

namespace Reads

variable {l : Lexis} {cs mid rest : List Char} {ts us : List Token}

theorem nil (cs : List Char) : Reads l cs cs [] :=
  fun bound enough => ⟨bound, enough, by simp⟩

theorem append (front : Reads l cs mid ts) (back : Reads l mid rest us) :
    Reads l cs rest (ts ++ us) := by
  intro bound enough
  obtain ⟨between, enough, readFront⟩ := front bound enough
  obtain ⟨left, enough, readBack⟩ := back between enough
  refine ⟨left, enough, ?_⟩
  rw [readFront, readBack, Option.map_map]
  simp [Function.comp_def]

theorem space {c : Char} (blank : isSpace c = true) (more : Reads l cs rest ts) :
    Reads l (c :: cs) rest ts := by
  intro bound enough
  cases bound with
  | zero => simp at enough
  | succ bound =>
    obtain ⟨left, enough, read⟩ := more bound (Nat.le_of_succ_le_succ enough)
    exact ⟨left, enough, by rw [readTokens, if_pos blank, read]⟩

/-- A token that stands at the front. -/
theorem token {c : Char} {t : Token} (solid : isSpace c = false)
    (noComment : skipComment l (c :: cs) = none) (reads : readToken l c cs = some (t, rest))
    (shorter : rest.length ≤ cs.length) : Reads l (c :: cs) rest [t] := by
  intro bound enough
  cases bound with
  | zero => simp at enough
  | succ bound =>
    refine ⟨bound, shorter.trans (Nat.le_of_succ_le_succ enough), ?_⟩
    rw [readTokens, if_neg (by simp [solid]), noComment]
    simp only [reads, Option.bind_eq_bind, Option.bind_some, List.cons_append, List.nil_append]
    cases readTokens l bound rest <;> rfl

end Reads

theorem readTokens_nil (l : Lexis) (bound : Nat) : readTokens l bound [] = some [] := by
  cases bound <;> rfl

/-- The tokens of a text whose beginning is read. -/
theorem Reads.tokens_eq {l : Lexis} {text : String} {rest : List Char} {ts : List Token}
    (read : Reads l text.toList rest ts) :
    ∃ left, rest.length ≤ left ∧ tokens l text = (readTokens l left rest).map (ts ++ ·) :=
  read (text.length + 1) (String.length_toList.le.trans (Nat.le_succ _))

/-- The tokens of a text that is read to its end. -/
theorem Reads.tokens_eq_some {l : Lexis} {text : String} {ts : List Token}
    (read : Reads l text.toList [] ts) : tokens l text = some ts := by
  obtain ⟨left, -, lexed⟩ := read.tokens_eq
  rw [lexed, readTokens_nil, Option.map_some, List.append_nil]

/-- The first token of a text that begins with neither white space nor a comment. -/
theorem exists_readToken_eq {l : Lexis} {bound : Nat} {c : Char} {cs : List Char} {t : Token}
    {ts : List Token} (solid : isSpace c = false) (noComment : skipComment l (c :: cs) = none)
    (read : readTokens l bound (c :: cs) = some (t :: ts)) :
    ∃ rest left, readToken l c cs = some (t, rest) ∧ readTokens l left rest = some ts := by
  cases bound with
  | zero => simp [readTokens] at read
  | succ bound =>
    rw [readTokens, if_neg (by simp [solid]), noComment] at read
    obtain ⟨⟨first, rest⟩, reads, read⟩ := Option.bind_eq_some_iff.mp read
    obtain ⟨more, readMore, same⟩ := Option.bind_eq_some_iff.mp read
    obtain ⟨rfl, rfl⟩ := List.cons.inj (Option.some.inj same)
    exact ⟨rest, bound, reads, readMore⟩

/-! ## Texts -/

theorem escape_cons {c : Char} (plain : c ≠ '\'') (cs : List Char) :
    Literal.escape (c :: cs) = c :: Literal.escape cs := by
  rw [Literal.escape]
  exact fun same => plain same

theorem length_escape (value : List Char) :
    (Literal.escape value).length = value.length + value.count '\'' := by
  induction value with
  | nil => rfl
  | cons c cs ih =>
    by_cases isQuote : c = '\''
    · subst isQuote
      simp only [Literal.escape, List.length_cons, ih, List.count_cons_self]
      omega
    · rw [escape_cons isQuote, List.length_cons, ih, List.length_cons,
        List.count_cons_of_ne isQuote]
      omega

/-- Whether a character stands for anything in a pattern. -/
def isWildcard (c : Char) : Bool :=
  c == '%' || c == '_'

/-- How many backslashes in a value do not stand in front of a wildcard. -/
def strays : List Char → Nat
  | [] => 0
  | c :: cs => strays cs + if c = '\\' ∧ ¬cs.head?.any isWildcard then 1 else 0

theorem strays_cons {c : Char} (literal : c ≠ '\\') (cs : List Char) :
    strays (c :: cs) = strays cs := by
  simp [strays, literal]

theorem strays_wildcard {c : Char} (wild : isWildcard c = true) (cs : List Char) :
    strays ('\\' :: c :: cs) = strays cs := by
  have literal : c ≠ '\\' := by
    rintro rfl
    contradiction
  rw [strays, strays_cons literal]
  simp [wild]

theorem escaped_of_isWildcard {c : Char} (wild : isWildcard c = true) : escaped c = ['\\', c] := by
  rcases Bool.or_eq_true_iff.mp wild with percent | underscore
  · rw [beq_iff_eq.mp percent]
    rfl
  · rw [beq_iff_eq.mp underscore]
    rfl

/-- A character that stands for itself is read as such. -/
theorem readText_cons {backslash : Bool} {mark c : Char} (plain : c ≠ mark)
    (literal : backslash = true → c ≠ '\\') {cs : List Char} (more : cs ≠ []) :
    readText backslash mark (c :: cs) =
      (readText backslash mark cs).map fun (value, after) => (c :: value, after) := by
  cases cs with
  | nil => exact absurd rfl more
  | cons d rest => rw [readText, if_neg plain, if_neg fun both => literal both.1 both.2]

/-- What was written with quotes doubled is read back, up to the closing quote, when no backslash in
it is taken for an escape.  The induction goes over a backslash and the wildcard behind it at once. -/
theorem readText_escape {backslash : Bool} {rest : List Char} (ends : rest.head? ≠ some '\'') :
    ∀ {value : List Char}, (backslash = true → strays value = 0) →
      readText backslash '\'' (Literal.escape value ++ '\'' :: rest) = some (value, rest)
  | [], _ => by
    cases rest with
    | nil => rfl
    | cons c cs =>
      have differs : c ≠ '\'' := fun same => ends (by rw [same]; rfl)
      rw [Literal.escape, List.nil_append, readText, if_pos rfl, if_neg differs]
  | c :: cs, clean => by
    by_cases isQuote : c = '\''
    · subst isQuote
      have behind : readText backslash '\'' (Literal.escape cs ++ '\'' :: rest) = some (cs, rest) :=
        readText_escape ends fun escapes => by
          rw [← strays_cons (c := '\'') (by decide), clean escapes]
      rw [Literal.escape, List.cons_append, List.cons_append, readText, if_pos rfl, if_pos rfl,
        behind]
      rfl
    · rw [escape_cons isQuote, List.cons_append]
      by_cases escapes : backslash = true ∧ c = '\\'
      · obtain ⟨rfl, rfl⟩ := escapes
        have none := clean rfl
        cases cs with
        | nil => simp [strays] at none
        | cons w cs =>
          have wild : isWildcard w = true := by
            by_contra tame
            simp [strays, tame] at none
          have noQuote : w ≠ '\'' := by
            rintro rfl
            contradiction
          have behind : readText true '\'' (Literal.escape cs ++ '\'' :: rest) = some (cs, rest) :=
            readText_escape ends fun _ => by rw [← strays_wildcard wild, none]
          rw [escape_cons noQuote, List.cons_append, readText, if_neg (by decide),
            if_pos ⟨rfl, rfl⟩, behind, escaped_of_isWildcard wild]
          rfl
      · have literal : backslash = true → c ≠ '\\' := fun on same => escapes ⟨on, same⟩
        have behind : readText backslash '\'' (Literal.escape cs ++ '\'' :: rest) = some (cs, rest) :=
          readText_escape ends fun on => by rw [← strays_cons (literal on), clean on]
        rw [readText_cons isQuote literal (by simp), behind]
        rfl

/-- How many characters it takes at least to write a value where a backslash escapes. -/
def cost (value : List Char) : Nat :=
  value.length + value.count '\'' + strays value

theorem cost_cons_le (c : Char) (cs : List Char) : cost (c :: cs) ≤ cost cs + 2 := by
  rw [cost, cost, List.length_cons, List.count_cons, strays]
  by_cases isQuote : c = '\''
  · subst isQuote
    simp
    omega
  · have noQuote : (c == '\'') = false := by simpa using isQuote
    simp only [noQuote, Bool.false_eq_true, if_false]
    split <;> omega

theorem cost_cons {c : Char} (noQuote : c ≠ '\'') (literal : c ≠ '\\') (cs : List Char) :
    cost (c :: cs) = cost cs + 1 := by
  rw [cost, cost, List.length_cons, List.count_cons_of_ne noQuote, strays_cons literal]
  omega

theorem cost_escaped_le (c : Char) (cs : List Char) : cost (escaped c ++ cs) ≤ cost cs + 2 := by
  by_cases wild : isWildcard c = true
  · have literal : c ≠ '\\' ∧ c ≠ '\'' := by
      constructor <;> (rintro rfl; contradiction)
    rw [escaped_of_isWildcard wild, List.cons_append, List.cons_append, List.nil_append, cost, cost,
      strays_wildcard wild, List.count_cons_of_ne (by decide), List.count_cons_of_ne literal.2]
    simp only [List.length_cons]
    omega
  · obtain ⟨e, same⟩ : ∃ e, escaped c = [e] := by
      unfold escaped
      split <;> first | exact ⟨_, rfl⟩ | contradiction
    rw [same]
    exact cost_cons_le e cs

/-- What is read was at least as long as it takes to write the value and the closing quote. -/
theorem cost_of_readText {cs value rest : List Char}
    (read : readText true '\'' cs = some (value, rest)) :
    cost value + 1 + rest.length ≤ cs.length := by
  -- Every step reads as many characters as the next ones of the value cost.
  fun_induction readText true '\'' cs generalizing value rest with
  | case1 => contradiction
  | case2 =>
    cases read
    simp [cost, strays]
  | case3 => contradiction
  | case4 tail ih =>
    obtain ⟨⟨inner, after⟩, readInner, same⟩ := Option.map_eq_some_iff.mp read
    cases same
    have := ih readInner
    have := cost_cons_le '\'' inner
    simp only [List.length_cons]
    omega
  | case5 d tail differs =>
    cases read
    simp only [cost, strays, List.length_cons, List.length_nil, List.count_nil]
    omega
  | case6 c d tail notQuote escapes ih =>
    obtain ⟨⟨inner, after⟩, readInner, same⟩ := Option.map_eq_some_iff.mp read
    cases same
    have := ih readInner
    have := cost_escaped_le d inner
    simp only [List.length_cons]
    omega
  | case7 c d tail notQuote literal ih =>
    obtain ⟨⟨inner, after⟩, readInner, same⟩ := Option.map_eq_some_iff.mp read
    cases same
    have := ih readInner
    have := cost_cons notQuote (fun same => literal ⟨rfl, same⟩) inner
    rw [List.length_cons]
    omega

/-- A value that is written and read back, with no more left than stood behind it, has no backslash
that is taken for an escape. -/
theorem strays_eq_zero_of_readText {value tail rest : List Char}
    (read : readText true '\'' (Literal.escape value ++ '\'' :: tail) = some (value, rest))
    (left : tail.length ≤ rest.length) : strays value = 0 := by
  have enough := cost_of_readText read
  rw [cost, List.length_append, length_escape, List.length_cons] at enough
  omega

/-! ## Words -/

/-- The characters that stand behind words. -/
def delimiters : List Char :=
  [' ', '\n', '(', ')', '.', ';']

/-- Whether a character opens neither a comment nor a token other than a word or a number. -/
def Lexis.opensWord (l : Lexis) (c : Char) : Bool :=
  !isSpace c && !(['-', '/', '#', '$'].contains c) && !l.textMarks.contains c &&
    !l.nameMarks.any (·.1 == c) && !signs.contains c

/-- A word and the word behind it are no keyword together. -/
def Unpaired (l : Lexis) (word : String) (rest : List Char) : Prop :=
  (upper word, upper (String.ofList ((rest.dropWhile isSpace).takeWhile l.isWordChar))) ∉
    commonPairs ++ l.wordPairs

theorem drop_takeWhile {α : Type} (p : α → Bool) (xs : List α) :
    xs.drop (xs.takeWhile p).length = xs.dropWhile p := by
  have parts := List.takeWhile_append_dropWhile (p := p) (l := xs)
  calc xs.drop (xs.takeWhile p).length
      = (xs.takeWhile p ++ xs.dropWhile p).drop (xs.takeWhile p).length := by rw [parts]
    _ = xs.dropWhile p := List.drop_left

/-- The characters of a word are read up to one that does not belong to it. -/
theorem readWord_append {l : Lexis} {word : String} {mark : Char} {rest : List Char}
    (chars : ∀ c ∈ word.toList, l.isWordChar c = true) (ends : l.isWordChar mark = false)
    (unpaired : Unpaired l word (mark :: rest)) :
    readWord l (word.toList ++ mark :: rest) = (.word word, mark :: rest) := by
  have first : (word.toList ++ mark :: rest).takeWhile l.isWordChar = word.toList := by
    rw [List.takeWhile_append_of_pos chars, List.takeWhile_cons_of_neg (by simp [ends]),
      List.append_nil]
  unfold readWord
  simp only [first, List.drop_left, drop_takeWhile, String.ofList_toList]
  rw [if_neg]
  rintro ⟨-, paired⟩
  exact unpaired (List.contains_iff_mem.mp paired)

section Words

variable {d : Dialect} (usual : d ∈ Dialect.usual)

include usual

theorem isWordChar_plain {c : Char} (plain : isPlainChar c = true) :
    d.lexis.isWordChar c = true := by
  have all : ∀ d ∈ Dialect.usual, ∀ n < 123, isPlainChar (Char.ofNat n) = true →
      d.lexis.isWordChar (Char.ofNat n) = true := by
    decide
  exact of_isPlainChar (P := fun c => d.lexis.isWordChar c = true) (all d usual) plain

theorem isWordChar_delimiter {c : Char} (mem : c ∈ delimiters) :
    d.lexis.isWordChar c = false := by
  have all : ∀ d ∈ Dialect.usual, ∀ c ∈ delimiters, d.lexis.isWordChar c = false := by
    decide
  exact all d usual c mem

/-- A word is not read as a text of a special form, whatever letter it begins with. -/
theorem formOf?_eq_none (c : Char) {cs : List Char}
    (next : ∀ e ∈ cs.head?, isPlainChar e = true ∨ e ∈ delimiters) :
    d.lexis.formOf? c cs = none := by
  have marks : ∀ d ∈ Dialect.usual, ∀ e ∈ d.lexis.textMarks,
      isPlainChar e = false ∧ e ∉ delimiters := by
    decide
  have ampersand : isPlainChar '&' = false ∧ '&' ∉ delimiters := by decide
  have noMark : ∀ e ∈ cs.head?, e ∉ d.lexis.textMarks ∧ e ≠ '&' := by
    intro e isNext
    constructor
    · intro mem
      obtain ⟨notPlain, notDelimiter⟩ := marks d usual e mem
      rcases next e isNext with plain | delimiter
      · simp [plain] at notPlain
      · exact notDelimiter delimiter
    · rintro rfl
      rcases next '&' isNext with plain | delimiter
      · simp [plain] at ampersand
      · exact ampersand.2 delimiter
  cases cs with
  | nil => simp [Lexis.formOf?]
  | cons e cs =>
    obtain ⟨notMark, notAnd⟩ := noMark e rfl
    unfold Lexis.formOf?
    by_cases isU : c.toLower = 'u'
    · simp [isU, notAnd]
    · simp [isU, notMark]

theorem opensWord_plain {c : Char} (plain : isPlainChar c = true) (noDigit : c.isDigit = false) :
    d.lexis.opensWord c = true := by
  have all : ∀ d ∈ Dialect.usual, ∀ n < 123, isPlainChar (Char.ofNat n) = true →
      (Char.ofNat n).isDigit = false → d.lexis.opensWord (Char.ofNat n) = true := by
    decide
  exact of_isPlainChar (P := fun c => c.isDigit = false → d.lexis.opensWord c = true)
    (all d usual) plain noDigit

/-- A word in front of a delimiter is read as a token. -/
theorem Reads.word {word : String} {mark : Char} {rest : List Char} (filled : word ≠ "")
    (plain : IsPlain word) (ends : mark ∈ delimiters)
    (unpaired : Unpaired d.lexis word (mark :: rest)) :
    Reads d.lexis (word.toList ++ mark :: rest) (mark :: rest) [.word word] := by
  have read : readWord d.lexis (word.toList ++ mark :: rest) = (.word word, mark :: rest) :=
    readWord_append (fun e mem => isWordChar_plain usual (plain.chars e mem))
      (isWordChar_delimiter usual ends) unpaired
  obtain ⟨chars, start⟩ := plain
  cases isCons : word.toList with
  | nil => exact absurd (by simpa using isCons) filled
  | cons c cs =>
    rw [isCons] at chars start read
    have noDigit := start c rfl
    have opens := opensWord_plain usual (chars c List.mem_cons_self) noDigit
    simp only [Lexis.opensWord, Bool.and_eq_true, Bool.not_eq_true', List.contains_cons,
      Bool.or_eq_false_iff, beq_eq_false_iff_ne] at opens
    obtain ⟨⟨⟨⟨solid, noComment⟩, noText⟩, noName⟩, noSign⟩ := opens
    have next : ∀ e ∈ (cs ++ mark :: rest).head?, isPlainChar e = true ∨ e ∈ delimiters := by
      cases cs with
      | nil => simp [ends]
      | cons e cs => simp [chars e (by simp)]
    have noMark : d.lexis.nameMarks.find? (·.1 == c) = none := by
      simpa using noName
    have noDollar : ¬(d.lexis.dollarTexts = true ∧ c = '$') := fun both => noComment.2.2.2.1 both.2
    refine .token solid ?_ ?_ (by simp)
    · unfold skipComment
      split <;> simp_all
    · change readToken d.lexis c (cs ++ mark :: rest) = some (_, mark :: rest)
      simp only [readToken, noDigit, noText, noMark, formOf?_eq_none usual c next, noDollar, noSign,
        Bool.false_eq_true, if_false]
      exact congrArg some read

/-! ## Signs -/

/-- The signs of queries that are written. -/
def usedSigns : List Char :=
  ['(', ')', '*', '.', ';', '=', '<', '-']

/-- No longer sign begins with a character. -/
def Alone (l : Lexis) (c : Char) (rest : List Char) : Prop :=
  ∀ mark ∈ l.longSigns ++ commonSigns, mark.toList.isPrefixOf (c :: rest) = false

theorem alone_of_first {c : Char} (first : c ∈ ['(', ')', '*', '.', ';']) (rest : List Char) :
    Alone d.lexis c rest := by
  have all : ∀ d ∈ Dialect.usual, ∀ c ∈ ['(', ')', '*', '.', ';'],
      ∀ mark ∈ d.lexis.longSigns ++ commonSigns, mark.toList.head?.any (· != c) = true := by
    decide
  intro mark mem
  have differs := all d usual c first mark mem
  cases chars : mark.toList with
  | nil => simp [chars] at differs
  | cons e cs =>
    rw [chars] at differs
    have different : (e == c) = false := by simpa using differs
    simp [List.isPrefixOf, different]

theorem alone_of_second {e : Char} (second : e = ' ' ∨ isDecimal e = true) (c : Char)
    (rest : List Char) : Alone d.lexis c (e :: rest) := by
  have all : ∀ d ∈ Dialect.usual, ∀ mark ∈ d.lexis.longSigns ++ commonSigns,
      mark.toList.tail.head?.any (fun e => e != ' ' && !isDecimal e) = true := by
    decide
  intro mark mem
  have differs := all d usual mark mem
  cases chars : mark.toList with
  | nil => simp [chars] at differs
  | cons b bs =>
    cases bs with
    | nil => simp [chars] at differs
    | cons x xs =>
      rw [chars] at differs
      have different : (x == e) = false := by
        rw [beq_eq_false_iff_ne]
        rintro rfl
        rcases second with rfl | digit <;> simp_all
      simp [List.isPrefixOf, different]

/-- A sign is read as a token of its own. -/
theorem Reads.sign {c : Char} {rest : List Char} (used : c ∈ usedSigns)
    (noComment : skipComment d.lexis (c :: rest) = none) (alone : Alone d.lexis c rest) :
    Reads d.lexis (c :: rest) rest [.sign (String.singleton c)] := by
  have all : ∀ d ∈ Dialect.usual, ∀ c ∈ usedSigns, (!isSpace c && !c.isDigit &&
      !d.lexis.textMarks.contains c && !d.lexis.nameMarks.any (·.1 == c) && c != '$' &&
      c.toLower != 'u' && !d.lexis.textForms.any (·.1 == c.toLower) && signs.contains c) = true := by
    decide
  have facts := all d usual c used
  simp only [Bool.and_eq_true, Bool.not_eq_true', bne_iff_ne] at facts
  obtain ⟨⟨⟨⟨⟨⟨⟨solid, noDigit⟩, noText⟩, noName⟩, noDollar⟩, noU⟩, noForm⟩, isSign⟩ := facts
  have noMark : d.lexis.nameMarks.find? (·.1 == c) = none := by
    simpa using noName
  have noLetter : d.lexis.textForms.find? (·.1 == c.toLower) = none := by
    simpa using noForm
  have unformed : d.lexis.formOf? c rest = none := by
    unfold Lexis.formOf?
    rw [if_neg noU]
    cases rest with
    | nil => rfl
    | cons e cs => simp [noLetter]
  have single : readSign d.lexis c rest = (.sign (String.singleton c), rest) := by
    have none : (d.lexis.longSigns ++ commonSigns).filter
        (fun mark => mark.toList.isPrefixOf (c :: rest)) = [] :=
      List.filter_eq_nil_iff.mpr fun mark mem => by simp [alone mark mem]
    unfold readSign
    rw [none]
    rfl
  refine .token solid noComment ?_ le_rfl
  have notDollar : ¬(d.lexis.dollarTexts = true ∧ c = '$') := fun both => noDollar both.2
  simp only [readToken, noDigit, noText, noMark, unformed, notDollar, isSign,
    Bool.false_eq_true, if_false, if_true]
  exact congrArg some single

/-- A sign that begins no longer one is read as a token. -/
theorem Reads.bracket (mark : String) {rest : List Char} (mem : mark ∈ ["(", ")", "*", ".", ";"]) :
    Reads d.lexis (mark.toList ++ rest) rest [.sign mark] := by
  -- The sign is searched in a list, since a decision over all characters would not end.
  have used : ∀ mark ∈ ["(", ")", "*", ".", ";"], ['(', ')', '*', '.', ';'].any (fun c => decide
      (mark = String.singleton c ∧ c ∈ usedSigns ∧ c ∉ ['-', '/', '#'])) = true := by
    decide
  obtain ⟨c, cMem, found⟩ := List.any_eq_true.mp (used mark mem)
  obtain ⟨rfl, isUsed, noComment⟩ := of_decide_eq_true found
  rw [String.toList_singleton]
  refine .sign usual isUsed ?_ (alone_of_first usual cMem rest)
  unfold skipComment
  split <;> simp_all

/-- The semicolon at the end is read as a token. -/
theorem Reads.semicolon : Reads d.lexis [';'] [] [.sign ";"] := by
  have read : Reads d.lexis (";".toList ++ []) [] [.sign ";"] := .bracket usual ";" (by simp)
  simpa using read

/-- A sign that compares is read as a token in front of a blank. -/
theorem Reads.comparison (mark : String) {rest : List Char} (mem : mark ∈ ["=", "<"]) :
    Reads d.lexis (mark.toList ++ ' ' :: rest) (' ' :: rest) [.sign mark] := by
  have used : ∀ mark ∈ ["=", "<"], ['=', '<'].any (fun c => decide
      (mark = String.singleton c ∧ c ∈ usedSigns ∧ c ∉ ['-', '/', '#'])) = true := by
    decide
  obtain ⟨c, cMem, found⟩ := List.any_eq_true.mp (used mark mem)
  obtain ⟨rfl, isUsed, noComment⟩ := of_decide_eq_true found
  rw [String.toList_singleton]
  refine .sign usual isUsed ?_ (alone_of_second usual (.inl rfl) c rest)
  unfold skipComment
  split <;> simp_all

/-! ## Literals -/

/-- A quoted text that no escape spoils is read as a token. -/
theorem Reads.text {value rest : List Char}
    (clean : d.lexis.backslash = true → strays value = 0) (ends : rest.head? ≠ some '\'') :
    Reads d.lexis ('\'' :: (Literal.escape value ++ '\'' :: rest)) rest
      [.text (String.ofList value)] := by
  have mark : ∀ d ∈ Dialect.usual, d.lexis.textMarks.contains '\'' = true := by decide
  refine .token (by decide) rfl ?_ (by simp; omega)
  rw [readToken, if_neg (by decide), if_pos (mark d usual), readText_escape ends clean]
  rfl

omit usual in
/-- A name is read up to the mark behind it. -/
theorem readText_append {mark : Char} {name rest : List Char} (absent : mark ∉ name)
    (ends : rest.head? ≠ some mark) :
    readText false mark (name ++ mark :: rest) = some (name, rest) := by
  induction name with
  | nil =>
    cases rest with
    | nil => simp [readText]
    | cons c cs =>
      have differs : c ≠ mark := fun same => ends (by rw [same]; rfl)
      rw [List.nil_append, readText, if_pos rfl, if_neg differs]
  | cons c cs ih =>
    obtain ⟨differs, later⟩ := not_or.mp (mt List.mem_cons.mpr absent)
    rw [List.cons_append, readText_cons (Ne.symm differs) (by simp) (by simp), ih later]
    rfl

/-- A plain name between the marks of a dialect is read as a token. -/
theorem Reads.quoted {name : String} {mark : Char} {rest : List Char} (plain : IsPlain name)
    (ends : mark ∈ delimiters) :
    Reads d.lexis ((d.quoteMarks.1 ++ name ++ d.quoteMarks.2).toList ++ mark :: rest)
      (mark :: rest) [.name name] := by
  have all : ∀ d ∈ Dialect.usual, ['"', '`'].any (fun quote => decide
      (d.quoteMarks.1.toList = [quote] ∧ d.quoteMarks.2.toList = [quote] ∧
        d.lexis.textMarks.contains quote = false ∧
        d.lexis.nameMarks.find? (·.1 == quote) = some (quote, quote))) = true := by
    decide
  have apart : ∀ quote ∈ ['"', '`'], isPlainChar quote = false ∧ quote ∉ delimiters ∧
      isSpace quote = false ∧ quote.isDigit = false ∧ quote ∉ ['-', '/', '#'] := by
    decide
  obtain ⟨quote, mem, found⟩ := List.any_eq_true.mp (all d usual)
  obtain ⟨opened, closed, noText, isMark⟩ := of_decide_eq_true found
  obtain ⟨notPlain, notDelimiter, solid, noDigit, noComment⟩ := apart quote mem
  have read : readText false quote (name.toList ++ quote :: mark :: rest) =
      some (name.toList, mark :: rest) :=
    readText_append (fun mem => by simp [plain.chars quote mem] at notPlain)
      fun next => notDelimiter (Option.some.inj next ▸ ends)
  rw [String.toList_append, String.toList_append, opened, closed, List.singleton_append,
    List.append_assoc, List.cons_append, List.singleton_append]
  refine .token solid ?_ ?_ (by simp; omega)
  · unfold skipComment
    split <;> simp_all
  · simp only [readToken, noDigit, noText, isMark, Bool.false_eq_true, if_false, read]
    simp

/-! ## Numbers -/

omit usual in
theorem isSpace_of_isDecimal {c : Char} (decimal : isDecimal c = true) : isSpace c = false := by
  have apart : ∀ n ∈ decimalZeros, (33 ≤ n ∧ n + 9 < 0x85) ∨ (0xA1 ≤ n ∧ n + 9 < 0x1680) ∨
      (0x1681 ≤ n ∧ n + 9 < 0x2000) ∨ 0x3001 ≤ n := by
    decide
  obtain ⟨value, found⟩ := Option.isSome_iff_exists.mp decimal
  obtain ⟨n, origin, -⟩ := Option.map_eq_some_iff.mp found
  have bounds := List.find?_some origin
  have places := apart n (List.mem_of_find?_eq_some origin)
  simp only [Bool.and_eq_true, decide_eq_true_eq] at bounds
  have solid : isBlank c = false := by
    simp only [isBlank, Bool.or_eq_false_iff, Bool.and_eq_false_iff, decide_eq_false_iff_not,
      beq_eq_false_iff_ne]
    omega
  simp [isSpace, solid]

omit usual in
theorem isDecimal_of_isDigit {c : Char} (digit : c.isDigit = true) : isDecimal c = true :=
  Count.of_isDigit (P := fun c => isDecimal c = true) (by decide) digit

/-- The characters behind the first one of a number that is followed by a semicolon. -/
def isNumberChar (c : Char) : Bool :=
  isDecimal c || c == '.' || c == ';'

omit usual in
theorem toLower_of_isNumberChar {c : Char} (number : isNumberChar c = true) : c.toLower = c := by
  unfold Char.toLower
  split
  · next capital =>
    have upper : c.isUpper = true := decide_eq_true capital
    have letter : Name.isIdentifierChar c = true := by
      change (c.isUpper || c.isLower || c.isDigit) = true
      rw [upper, Bool.true_or, Bool.true_or]
    have other : isNumberChar c = false :=
      Name.of_isIdentifierChar (P := fun c => c.isUpper = true → isNumberChar c = false)
        (by decide) letter upper
    simp [other] at number
  · rfl

/-- No letter behind a zero makes a number one to another base. -/
theorem base_eq_none {c : Char} (number : isNumberChar c = true) :
    d.lexis.baseLetters.find? (·.1 == c.toLower) = none := by
  have letters : ∀ d ∈ Dialect.usual, ∀ b ∈ d.lexis.baseLetters, isNumberChar b.1 = false := by
    decide
  rw [toLower_of_isNumberChar number, List.find?_eq_none]
  intro b mem same
  rw [← beq_iff_eq.mp same, letters d usual b mem] at number
  contradiction

omit usual in
/-- The digits of a number are those of ASCII. -/
theorem isDigit_of_mem_readNumber {cs : List Char} {c : Char} (mem : c ∈ (readNumber cs).1)
    (decimal : isDecimal c = true) : c.isDigit = true := by
  have digit {ds : List Char} (mem : c ∈ ds.takeWhile Char.isDigit) : c.isDigit = true :=
    List.all_eq_true.mp List.all_takeWhile c mem
  have marks : ∀ e ∈ ['.', 'e', 'E', '+', '-'], isDecimal e = false := by decide
  have noMark (isMark : c ∈ ['.', 'e', 'E', '+', '-']) : c.isDigit = true := by
    rw [marks c isMark] at decimal
    contradiction
  unfold readNumber at mem
  extract_lets whole behind fraction left exponent at mem
  rcases List.mem_append.mp mem with front | inExponent
  · rcases List.mem_append.mp front with inWhole | inFraction
    · exact digit inWhole
    · unfold fraction at inFraction
      split at inFraction
      · rcases List.mem_cons.mp inFraction with rfl | inDigits
        · exact noMark (by simp)
        · exact digit inDigits
      · contradiction
  · have signed {e : Char} (isSign : e = 'e' ∨ e = 'E' ∨ e = '+' ∨ e = '-') (same : c = e) :
        c.isDigit = true := by
      refine noMark ?_
      rcases isSign with rfl | rfl | rfl | rfl <;> simp [same]
    unfold exponent at inExponent
    grind

omit usual in
/-- A number is read up to a semicolon. -/
theorem readNumber_append {whole fraction rest : List Char} (digits : ∀ c ∈ whole, c.isDigit = true)
    (fractional : fraction = [] ∨ ∃ more, fraction = '.' :: more ∧ ∀ c ∈ more, c.isDigit = true) :
    readNumber (whole ++ fraction ++ ';' :: rest) = (whole ++ fraction, ';' :: rest) := by
  have front {cs : List Char} {mark : Char} (more : List Char) (digits : ∀ c ∈ cs, c.isDigit = true)
      (ends : mark.isDigit = false) :
      (cs ++ mark :: more).takeWhile Char.isDigit = cs := by
    rw [List.takeWhile_append_of_pos digits, List.takeWhile_cons_of_neg (by simp [ends]),
      List.append_nil]
  have point : ∀ mark ∈ ['.', ';'], mark.isDigit = false := by decide
  rcases fractional with rfl | ⟨more, rfl, moreDigits⟩
  · have whole := front rest digits (point ';' (by simp))
    rw [List.append_nil]
    unfold readNumber
    -- An exponent is looked for two characters ahead.
    rcases rest with _ | ⟨a, _ | ⟨b, rest⟩⟩ <;> simp [whole]
  · have fraction := front rest moreDigits (point ';' (by simp))
    have whole := front (more ++ ';' :: rest) digits (point '.' (by simp))
    rw [List.append_assoc, List.cons_append]
    unfold readNumber
    rcases rest with _ | ⟨a, _ | ⟨b, rest⟩⟩ <;> simp [whole, fraction]

/-- Where no letter follows a zero, digits are read as a number to the base ten, or as the beginning
of a word. -/
theorem readDigits_eq (c : Char) {cs : List Char} (next : ∀ e ∈ cs.head?, isNumberChar e = true) :
    readDigits d.lexis (c :: cs) =
      let (digits, rest) := readNumber (c :: cs)
      if rest.head?.any beginsWord = true ∧ d.lexis.digitNames = true then
        let tail := rest.takeWhile fun c => !isSpace c && !signs.contains c
        (.word (String.ofList (digits ++ tail)), rest.drop tail.length)
      else (.number (String.ofList digits), rest) := by
  unfold readDigits
  extract_lets word base
  have noBase : base = none := by
    unfold base
    split
    · next letter more same =>
      obtain ⟨-, rfl⟩ := List.cons.inj same
      rw [base_eq_none usual (next letter rfl)]
      rfl
    · rfl
  rw [noBase]

omit usual in
/-- The digits of a number without a sign: a whole part, and perhaps a point and a fraction. -/
theorem parts_of_isUnsigned {cs : List Char} (unsigned : Literal.isUnsigned cs = true) :
    ∃ whole fraction, cs = whole ++ fraction ∧ whole ≠ [] ∧ (∀ c ∈ whole, isDecimal c = true) ∧
      (fraction = [] ∨
        ∃ more, fraction = '.' :: more ∧ more ≠ [] ∧ ∀ c ∈ more, isDecimal c = true) := by
  have filled {ds : List Char} (digits : Literal.isDigits ds = true) :
      ds ≠ [] ∧ ∀ c ∈ ds, isDecimal c = true := by
    obtain ⟨nonempty, all⟩ := Bool.and_eq_true_iff.mp digits
    exact ⟨by simpa using nonempty, List.all_eq_true.mp all⟩
  unfold Literal.isUnsigned at unsigned
  split at unsigned
  · obtain ⟨nonempty, all⟩ := filled unsigned
    exact ⟨cs, [], by simp, nonempty, all, .inl rfl⟩
  · next fraction behind =>
    obtain ⟨front, back⟩ := Bool.and_eq_true_iff.mp unsigned
    obtain ⟨nonempty, all⟩ := filled front
    refine ⟨_, '.' :: fraction, ?_, nonempty, all, .inr ⟨fraction, rfl, filled back⟩⟩
    rw [← behind, List.takeWhile_append_dropWhile]
  · contradiction

omit usual in
/-- A number without a sign begins with a digit, and behind every character of it another one or the
semicolon follows. -/
theorem cons_of_isUnsigned {digits : List Char} (unsigned : Literal.isUnsigned digits = true) :
    ∃ c cs, digits = c :: cs ∧ isDecimal c = true ∧
      ∀ rest, ∀ e ∈ (cs ++ ';' :: rest).head?, isNumberChar e = true := by
  obtain ⟨whole, fraction, rfl, filled, decimal, fractional⟩ := parts_of_isUnsigned unsigned
  obtain ⟨c, cs, rfl⟩ := List.exists_cons_of_ne_nil filled
  refine ⟨c, cs ++ fraction, rfl, decimal c List.mem_cons_self, fun rest => ?_⟩
  cases cs with
  | nil => rcases fractional with rfl | ⟨more, rfl, -⟩ <;> simp [isNumberChar]
  | cons e cs => simp [isNumberChar, decimal e (by simp)]

omit usual in
/-- No comment begins with a digit. -/
theorem skipComment_of_isDecimal {c : Char} (decimal : isDecimal c = true) (cs : List Char) :
    skipComment d.lexis (c :: cs) = none := by
  have marks : ∀ mark ∈ ['-', '/', '#'], isDecimal mark = false := by decide
  have noMark (mark : Char) (mem : mark ∈ ['-', '/', '#']) : c ≠ mark := by
    rintro rfl
    simp [marks c mem] at decimal
  unfold skipComment
  split <;> simp_all

/-- A number in ASCII is read as a token. -/
theorem Reads.number {digits rest : List Char} (unsigned : Literal.isUnsigned digits = true)
    (ascii : ∀ c ∈ digits, isDecimal c = true → c.isDigit = true) :
    Reads d.lexis (digits ++ ';' :: rest) (';' :: rest) [.number (String.ofList digits)] := by
  obtain ⟨whole, fraction, isWhole, -, decimal, fractional⟩ := parts_of_isUnsigned unsigned
  have read : readNumber (digits ++ ';' :: rest) = (digits, ';' :: rest) := by
    rw [isWhole] at ascii ⊢
    refine readNumber_append (fun c mem => ascii c (by simp [mem]) (decimal c mem)) ?_
    exact fractional.imp_right fun ⟨more, isFraction, _, decimal⟩ =>
      ⟨more, isFraction, fun c mem => ascii c (by simp [isFraction, mem]) (decimal c mem)⟩
  obtain ⟨c, cs, rfl, decimal, next⟩ := cons_of_isUnsigned unsigned
  have ends : beginsWord ';' = false := by decide
  refine .token (isSpace_of_isDecimal decimal) (skipComment_of_isDecimal decimal _) ?_
    (by simp)
  change readToken d.lexis c (cs ++ ';' :: rest) = _
  rw [readToken, if_pos (ascii c List.mem_cons_self decimal), readDigits_eq usual c (next rest)]
  rw [List.cons_append] at read
  simp [read, ends]

/-- A natural number in decimal digits is read as a token. -/
theorem Reads.natural (n : Nat) :
    Reads d.lexis ((toString n).toList ++ [';']) [';'] [.number (toString n)] := by
  have digits : ∀ c ∈ Count.digits n, c.isDigit = true :=
    Count.forall_mem_digits (by decide) n
  have unsigned : Literal.isUnsigned (Count.digits n) = true := by
    have decimal : ∀ c ∈ Count.digits n, isDecimal c = true := fun c mem =>
      isDecimal_of_isDigit (digits c mem)
    simpa [Literal.isUnsigned, List.dropWhile_eq_nil_iff.mpr decimal, Literal.isDigits,
      Count.digits_ne_nil] using decimal
  have read : Reads d.lexis (Count.digits n ++ ';' :: []) [';'] _ :=
    Reads.number usual unsigned fun c mem _ => digits c mem
  rwa [← Count.toList_toString, String.ofList_toList] at read

/-- No text of a special form begins with a digit. -/
theorem formOf?_of_isDecimal {c : Char} (decimal : isDecimal c = true) (cs : List Char) :
    d.lexis.formOf? c cs = none := by
  have letters : ∀ d ∈ Dialect.usual, ∀ form ∈ d.lexis.textForms, isNumberChar form.1 = false := by
    decide
  have number : isNumberChar c = true := by
    simp [isNumberChar, decimal]
  have noLetter : d.lexis.textForms.find? (·.1 == c.toLower) = none := by
    rw [toLower_of_isNumberChar number, List.find?_eq_none]
    intro form mem same
    rw [← beq_iff_eq.mp same, letters d usual form mem] at number
    contradiction
  unfold Lexis.formOf?
  extract_lets rest
  cases rest with
  | nil => rfl
  | cons mark body => simp [noLetter]

omit usual in
theorem exists_readWord_eq (l : Lexis) (cs : List Char) :
    ∃ word rest, readWord l cs = (.word word, rest) := by
  unfold readWord
  extract_lets first behind gap next pair
  split <;> exact ⟨_, _, rfl⟩

omit usual in
theorem exists_readSign_eq (l : Lexis) (c : Char) (cs : List Char) :
    ∃ mark rest, readSign l c cs = (.sign mark, rest) := by
  unfold readSign
  extract_lets longer three
  split <;> exact ⟨_, _, rfl⟩

/-- Only digits of ASCII are read as a number. -/
theorem isDigit_of_readToken {c : Char} {cs rest : List Char} {text : String}
    (decimal : isDecimal c = true) (next : ∀ e ∈ cs.head?, isNumberChar e = true)
    (read : readToken d.lexis c cs = some (.number text, rest)) :
    ∀ e ∈ text.toList, isDecimal e = true → e.isDigit = true := by
  by_cases digit : c.isDigit = true
  · rw [readToken, if_pos digit, readDigits_eq usual c next] at read
    simp only [Option.some.injEq] at read
    split at read
    · simp at read
    · obtain ⟨rfl, -⟩ := by simpa using read
      intro e mem
      rw [String.toList_ofList] at mem
      exact isDigit_of_mem_readNumber mem
  · -- A digit that is none of ASCII opens a word, or something else that is no number.
    have noDollar : ¬(d.lexis.dollarTexts = true ∧ c = '$') := by
      rintro ⟨-, rfl⟩
      exact absurd decimal (by decide)
    rw [readToken, if_neg digit, formOf?_of_isDecimal usual decimal] at read
    split at read
    · obtain ⟨found, -, same⟩ := Option.map_eq_some_iff.mp read
      simp at same
    · split at read
      · obtain ⟨found, -, same⟩ := Option.map_eq_some_iff.mp read
        simp at same
      · contradiction
      · obtain ⟨word, left, isWord⟩ := exists_readWord_eq d.lexis (c :: cs)
        obtain ⟨mark, after, isSign⟩ := exists_readSign_eq d.lexis c cs
        rw [isWord, isSign] at read
        split at read <;> simp at read

/-- A minus sign in front of a number is read as a token of its own. -/
theorem Reads.minus {digits : List Char} (rest : List Char)
    (unsigned : Literal.isUnsigned digits = true) :
    Reads d.lexis ('-' :: (digits ++ ';' :: rest)) (digits ++ ';' :: rest) [.sign "-"] := by
  obtain ⟨c, cs, rfl, decimal, -⟩ := cons_of_isUnsigned unsigned
  have noDash : c ≠ '-' := by
    rintro rfl
    exact absurd decimal (by decide)
  refine .sign usual (by simp [usedSigns]) ?_ (alone_of_second usual (.inr decimal) '-' _)
  simp [skipComment, noDash]

/-- What is read as a number where one without a sign stands is made of digits of ASCII. -/
theorem isDigit_of_readTokens {digits rest : List Char} {bound : Nat} {text : String}
    {ts : List Token} (unsigned : Literal.isUnsigned digits = true)
    (read : readTokens d.lexis bound (digits ++ ';' :: rest) = some (.number text :: ts)) :
    ∀ e ∈ text.toList, isDecimal e = true → e.isDigit = true := by
  obtain ⟨c, cs, rfl, decimal, next⟩ := cons_of_isUnsigned unsigned
  obtain ⟨after, left, reads, -⟩ := exists_readToken_eq (isSpace_of_isDecimal decimal)
    (skipComment_of_isDecimal decimal _) read
  exact isDigit_of_readToken usual decimal (next rest) reads

/-! ## Names -/

/-- The keywords of queries that are written. -/
def usedWords : List String :=
  ["SELECT", "FROM", "WHERE", "AS", "COUNT", "MIN", "MAX"]

/-- A keyword in front of a delimiter is read as a token. -/
theorem Reads.keyword (word : String) {mark : Char} {rest : List Char} (mem : word ∈ usedWords)
    (ends : mark ∈ delimiters) :
    Reads d.lexis (word.toList ++ mark :: rest) (mark :: rest) [.word word] := by
  have plain : ∀ word ∈ usedWords, word ≠ "" ∧ IsPlain word := by decide
  have firsts : ∀ d ∈ Dialect.usual, ∀ word ∈ usedWords,
      ∀ pair ∈ commonPairs ++ d.lexis.wordPairs, pair.1 ≠ upper word := by
    decide
  obtain ⟨filled, isPlain⟩ := plain word mem
  exact .word usual filled isPlain ends fun paired => firsts d usual word mem _ paired rfl

/-- The token of a name as a dialect writes it; of the empty name nothing is read. -/
def nameTokens (d : Dialect) (name : String) : List Token :=
  if name = "" then [] else if d.isReserved name then [.name name] else [.word name]

/-- A plain name is read as it is written, in quotes or not. -/
theorem Reads.quote {name : String} {mark : Char} {rest : List Char} (plain : IsPlain name)
    (ends : mark ∈ delimiters) (unpaired : Unpaired d.lexis name (mark :: rest)) :
    Reads d.lexis ((d.quote name).toList ++ mark :: rest) (mark :: rest) (nameTokens d name) := by
  have unreserved : ∀ d ∈ Dialect.usual, d.isReserved "" = false := by decide
  unfold nameTokens
  by_cases empty : name = ""
  · rw [empty, Dialect.quote, unreserved d usual]
    exact .nil _
  · rw [if_neg empty, Dialect.quote]
    split
    · exact .quoted usual plain ends
    · exact .word usual empty plain ends unpaired

/-- The words that stand behind names. -/
def followers : List String :=
  ["FROM", "WHERE", "p", "c"]

/-- A name is no keyword together with one of the words that stand behind names. -/
theorem unpaired_follower {word : String} {blank mark : Char} (name : String) (rest : List Char)
    (mem : word ∈ followers) (space : isSpace blank = true) (ends : mark ∈ delimiters) :
    Unpaired d.lexis name (blank :: (word.toList ++ mark :: rest)) := by
  have plain : ∀ word ∈ followers, IsPlain word ∧ word.toList.head?.any (!isSpace ·) = true := by
    decide
  have seconds : ∀ d ∈ Dialect.usual, ∀ word ∈ followers,
      ∀ pair ∈ commonPairs ++ d.lexis.wordPairs, pair.2 ≠ upper word := by
    decide
  obtain ⟨isPlain, solid⟩ := plain word mem
  have behind : (blank :: (word.toList ++ mark :: rest)).dropWhile isSpace =
      word.toList ++ mark :: rest := by
    rw [List.dropWhile_cons_of_pos space]
    cases isCons : word.toList with
    | nil => simp [isCons] at solid
    | cons c cs =>
      rw [isCons] at solid
      exact List.dropWhile_cons_of_neg (by simpa using solid)
  have next : (word.toList ++ mark :: rest).takeWhile d.lexis.isWordChar = word.toList := by
    rw [List.takeWhile_append_of_pos fun c mem => isWordChar_plain usual (isPlain.chars c mem),
      List.takeWhile_cons_of_neg (by simp [isWordChar_delimiter usual ends]), List.append_nil]
  intro paired
  rw [behind, next, String.ofList_toList] at paired
  exact seconds d usual word mem _ paired rfl

/-- A name in front of a sign, with a blank between them or none, is no keyword together with
anything. -/
theorem unpaired_sign {gap : List Char} {mark : Char} (name : String) (rest : List Char)
    (blank : ∀ c ∈ gap, isSpace c = true) (sign : mark ∈ [')', '.', ';', '=']) :
    Unpaired d.lexis name (gap ++ mark :: rest) := by
  have marks : ∀ d ∈ Dialect.usual, ∀ mark ∈ [')', '.', ';', '='],
      isSpace mark = false ∧ d.lexis.isWordChar mark = false := by
    decide
  have seconds : ∀ d ∈ Dialect.usual, ∀ pair ∈ commonPairs ++ d.lexis.wordPairs,
      pair.2 ≠ upper (String.ofList []) := by
    decide
  obtain ⟨solid, noWord⟩ := marks d usual mark sign
  intro paired
  rw [List.dropWhile_append_of_pos blank, List.dropWhile_cons_of_neg (by simp [solid]),
    List.takeWhile_cons_of_neg (by simp [noWord])] at paired
  exact seconds d usual _ paired rfl

end Words

end Sql

end FactModel
