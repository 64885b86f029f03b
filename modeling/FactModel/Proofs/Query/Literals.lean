import FactModel.Proofs.Number.Counts
import FactModel.Proofs.Sql.Lexing
import FactModel.Query.Build

/-!
# What a literal is read as

A value of a question is written as a literal, and a lexer reads the literal back.  A text between
quotes is read as the value, unless there is a backslash in the value that escapes the character behind
it, or a character that the text of a query cannot hold.  A bare number stands for the value, unless
some of its digits are not those of ASCII.
-/

namespace FactModel

open Text

/-! ## Numbers -/

/-- A number with its decimal digits: those of its whole part, and those behind the point. -/
structure Numeral where
  negative : Bool
  whole : List Nat
  fraction : List Nat

/-- What the characters of a written number stand for. -/
inductive NumberSymbol where
  | minus
  | point
  | digit (value : Nat)

/-- What a character stands for in a number when some characters have values as digits. -/
def numberSymbol? (value? : Char → Option Nat) (c : Char) : Option NumberSymbol :=
  if c = '-' then some .minus else if c = '.' then some .point else (value? c).map .digit

namespace Numeral

/-- How a number is written: with a sign when it is negative, and with a point only in front of
digits. -/
def symbols (n : Numeral) : List NumberSymbol :=
  (if n.negative then [.minus] else []) ++ n.whole.map .digit ++
    (if n.fraction = [] then [] else .point :: n.fraction.map .digit)

/-- A text spells a number, digit by digit, in characters that have given values. -/
structure Spelled (value? : Char → Option Nat) (n : Numeral) (cs : List Char) : Prop where
  nonempty : n.whole ≠ []
  symbols : cs.map (numberSymbol? value?) = n.symbols.map some

namespace Spelled

variable {value? : Char → Option Nat} {n : Numeral} {cs : List Char}

/-- Apart from signs and points there are only digits. -/
theorem eq_or_value?_isSome (spelled : n.Spelled value? cs) {c : Char} (mem : c ∈ cs) :
    c = '-' ∨ c = '.' ∨ (value? c).isSome = true := by
  have there := List.mem_map_of_mem (f := numberSymbol? value?) mem
  rw [spelled.symbols] at there
  obtain ⟨symbol, -, stands⟩ := List.mem_map.mp there
  rw [numberSymbol?] at stands
  split at stands
  · next minus => exact .inl minus
  · split at stands
    · next point => exact .inr (.inl point)
    · obtain ⟨value, found, -⟩ := Option.map_eq_some_iff.mp stands.symm
      exact .inr (.inr (by rw [found]; rfl))

theorem quote_not_mem (spelled : n.Spelled value? cs) (noDigit : value? '\'' = none) :
    '\'' ∉ cs := by
  intro mem
  simpa [noDigit] using spelled.eq_or_value?_isSome mem

/-- Only the values of the characters that occur matter. -/
theorem congr {other? : Char → Option Nat} (spelled : n.Spelled value? cs)
    (same : ∀ c ∈ cs, value? c = other? c) : n.Spelled other? cs := by
  refine ⟨spelled.nonempty, spelled.symbols ▸ List.map_congr_left fun c mem => ?_⟩
  rw [numberSymbol?, numberSymbol?, same c mem]

end Spelled

end Numeral

/-- The value of a digit of ASCII. -/
def asciiValue? (c : Char) : Option Nat :=
  if c.isDigit then some (c.toNat - '0'.toNat) else none

theorem isDigit_of_asciiValue? {c : Char} (isValue : (asciiValue? c).isSome = true) :
    c.isDigit = true := by
  unfold asciiValue? at isValue
  split at isValue
  · assumption
  · contradiction

/-- The digits of ASCII have the same values among those of all scripts. -/
theorem decimalValue?_eq_asciiValue? {c : Char} (ascii : isDecimal c = true → c.isDigit = true) :
    decimalValue? c = asciiValue? c := by
  by_cases isDigit : c.isDigit = true
  · exact Count.of_isDigit (P := fun c => decimalValue? c = asciiValue? c) (by decide) isDigit
  · rw [asciiValue?, if_neg isDigit, ← Option.not_isSome_iff_eq_none]
    exact fun decimal => isDigit (ascii decimal)

namespace Literal

theorem ne_of_isDecimal {c : Char} (decimal : isDecimal c = true) : c ≠ '-' ∧ c ≠ '.' := by
  constructor
  · rintro rfl
    exact absurd decimal (by decide)
  · rintro rfl
    exact absurd decimal (by decide)

theorem numberSymbol?_of_isDecimal {c : Char} (decimal : isDecimal c = true) :
    numberSymbol? decimalValue? c = some (.digit ((decimalValue? c).getD 0)) := by
  obtain ⟨noMinus, noPoint⟩ := ne_of_isDecimal decimal
  obtain ⟨value, found⟩ := Option.isSome_iff_exists.mp decimal
  rw [numberSymbol?, if_neg noMinus, if_neg noPoint, found]
  rfl

/-- Digits of any script have values. -/
theorem exists_values_of_isDecimal {cs : List Char} (filled : cs ≠ [])
    (decimal : ∀ c ∈ cs, isDecimal c = true) : ∃ values : List Nat, values ≠ [] ∧
      cs.map (numberSymbol? decimalValue?) = (values.map NumberSymbol.digit).map some := by
  refine ⟨cs.map fun c => (decimalValue? c).getD 0, by simpa using filled, ?_⟩
  rw [List.map_map, List.map_map]
  exact List.map_congr_left fun c mem => numberSymbol?_of_isDecimal (decimal c mem)

theorem exists_spelled_of_isUnsigned {cs : List Char} (unsigned : isUnsigned cs = true) :
    ∃ n : Numeral, n.negative = false ∧ n.Spelled decimalValue? cs := by
  obtain ⟨front, back, rfl, filled, decimal, rfl | ⟨digits, rfl, more, moreDecimal⟩⟩ :=
    Sql.parts_of_isUnsigned unsigned
  · obtain ⟨whole, nonempty, symbols⟩ := exists_values_of_isDecimal filled decimal
    exact ⟨⟨false, whole, []⟩, rfl, nonempty, by simpa [Numeral.symbols] using symbols⟩
  · obtain ⟨whole, nonempty, symbols⟩ := exists_values_of_isDecimal filled decimal
    obtain ⟨fraction, there, behind⟩ := exists_values_of_isDecimal more moreDecimal
    refine ⟨⟨false, whole, fraction⟩, rfl, nonempty, ?_⟩
    rw [List.map_append, List.map_cons, symbols, behind]
    simp [Numeral.symbols, there, numberSymbol?]

/-- What is written like a number spells one, in digits of any script. -/
theorem exists_spelled_of_isNumeric {cs : List Char} (numeric : isNumeric cs = true) :
    ∃ n : Numeral, n.Spelled decimalValue? cs := by
  unfold isNumeric at numeric
  split at numeric
  · obtain ⟨n, plain, spelled⟩ := exists_spelled_of_isUnsigned numeric
    refine ⟨{ n with negative := true }, spelled.nonempty, ?_⟩
    rw [List.map_cons, spelled.symbols]
    simp [Numeral.symbols, plain, numberSymbol?]
  · obtain ⟨n, -, spelled⟩ := exists_spelled_of_isUnsigned numeric
    exact ⟨n, spelled⟩

/-! ## Literals -/

/-- A text is a complete literal for a value in a column of a given type, as a database with a given
grammar reads it.  It is quoted, can be held by a query, and is read as the value up to its last
character; or it spells in ASCII the number that the value spells. -/
inductive Complete (grammar : Sql.Grammar) (type : SemanticType) (value : String)
    (text : List Char) : Prop where
  | quoted (body : List Char) (opened : text = '\'' :: body)
    (held : '\x00' ∈ text → grammar.holdsNull = true)
    (reads : Sql.readText (Sql.Lexis.ofGrammar grammar).backslash '\'' body =
      some (value.toList, []))
  | bare (isNumber : type = .number) (n : Numeral) (written : n.Spelled asciiValue? text)
    (meant : n.Spelled decimalValue? (trim value.toList))

/-- A backslash in a value that stands in front of no wildcard of patterns. -/
def HasStray (value : List Char) : Prop :=
  ∃ front back, value = front ++ '\\' :: back ∧ back.head? ≠ some '%' ∧ back.head? ≠ some '_'

/-- What must not be in a literal: in a number digits other than those of ASCII, and in a text a
backslash that escapes the character behind it, and a character that the text of a query cannot
hold. -/
def Harmless (grammar : Sql.Grammar) : Literal → Prop
  | .number digits => ∀ c ∈ digits, isDecimal c = true → c.isDigit = true
  | .text value => ((Sql.Lexis.ofGrammar grammar).backslash = true → ¬HasStray value) ∧
      ('\x00' ∈ value → grammar.holdsNull = true)

theorem strays_eq_zero_iff {value : List Char} : Sql.strays value = 0 ↔ ¬HasStray value := by
  induction value with
  | nil => simp [Sql.strays, HasStray]
  | cons c cs ih =>
    have wildcard : cs.head?.any Sql.isWildcard = true ↔
        cs.head? = some '%' ∨ cs.head? = some '_' := by
      cases cs with
      | nil => simp
      | cons d ds => simp [Sql.isWildcard]
    have split : HasStray (c :: cs) ↔
        (c = '\\' ∧ cs.head? ≠ some '%' ∧ cs.head? ≠ some '_') ∨ HasStray cs := by
      constructor
      · rintro ⟨front, back, same, stray⟩
        cases front with
        | nil =>
          obtain ⟨rfl, rfl⟩ := List.cons.inj same
          exact .inl ⟨rfl, stray⟩
        | cons d front => exact .inr ⟨front, back, (List.cons.inj same).2, stray⟩
      · rintro (⟨rfl, stray⟩ | ⟨front, back, rfl, stray⟩)
        · exact ⟨[], cs, rfl, stray⟩
        · exact ⟨c :: front, back, rfl, stray⟩
    rw [split, not_or, ← ih]
    simp only [Sql.strays, wildcard]
    by_cases here : c = '\\' ∧ ¬(cs.head? = some '%' ∨ cs.head? = some '_')
    · simp_all
    · simp only [if_neg here, Nat.add_zero]
      tauto

theorem mem_escape {c : Char} {cs : List Char} : c ∈ escape cs ↔ c ∈ cs := by
  rw [← List.count_pos_iff, ← List.count_pos_iff, count_escape]
  split <;> omega

section Rendering

variable {grammar : Sql.Grammar} {type : SemanticType} {value : String}

theorem complete_bare_iff (isBare : type = .number ∧ isNumeric (trim value.toList) = true) :
    Complete grammar type value (trim value.toList) ↔
      (number (trim value.toList)).Harmless grammar := by
  obtain ⟨n, meant⟩ := exists_spelled_of_isNumeric isBare.2
  constructor
  · rintro (⟨body, opened, -⟩ | ⟨-, n, written, -⟩) c mem decimal
    · exact absurd (opened ▸ List.mem_cons_self) (meant.quote_not_mem (by decide))
    · rcases written.eq_or_value?_isSome mem with minus | point | digit
      · exact absurd minus (ne_of_isDecimal decimal).1
      · exact absurd point (ne_of_isDecimal decimal).2
      · exact isDigit_of_asciiValue? digit
  · intro ascii
    exact .bare isBare.1 n
      (meant.congr fun c mem => decimalValue?_eq_asciiValue? (ascii c mem)) meant

/-- A quoted value is read back just when no backslash in it is taken for an escape. -/
theorem readText_escape_iff {backslash : Bool} {value : List Char} :
    Sql.readText backslash '\'' (escape value ++ ['\'']) = some (value, []) ↔
      (backslash = true → ¬HasStray value) := by
  simp only [← strays_eq_zero_iff]
  refine ⟨?_, fun clean => Sql.readText_escape (by simp) clean⟩
  rintro reads rfl
  exact Sql.strays_eq_zero_of_readText reads le_rfl

theorem complete_quoted_iff :
    Complete grammar type value ('\'' :: escape value.toList ++ ['\'']) ↔
      (text value.toList).Harmless grammar := by
  have held : '\x00' ∈ '\'' :: escape value.toList ++ ['\''] ↔ '\x00' ∈ value.toList := by
    simp [mem_escape]
  constructor
  · rintro (⟨body, opened, null, reads⟩ | ⟨-, n, written, -⟩)
    · obtain rfl := (List.cons.inj opened).2
      exact ⟨readText_escape_iff.mp reads, fun mem => null (held.mpr mem)⟩
    · exact absurd List.mem_cons_self (written.quote_not_mem (by decide))
  · rintro ⟨clean, null⟩
    exact .quoted _ rfl (fun mem => null (held.mp mem)) (readText_escape_iff.mpr clean)

end Rendering

/-- The literal for a value is complete in a dialect just when nothing is in it that must not be. -/
theorem complete_render_iff (d : Dialect) (type : SemanticType) (value : String) :
    Complete (.ofName d.grammar) type value (ofValue type value).render.toList ↔
      (ofValue type value).Harmless (.ofName d.grammar) := by
  by_cases isBare : type = .number ∧ isNumeric (trim value.toList) = true
  · have written : (ofValue type value).render.toList = trim value.toList := by
      simp [ofValue, isBare, render]
    rw [written, complete_bare_iff isBare, ofValue, if_pos isBare]
  · have written : (ofValue type value).render.toList =
        '\'' :: escape value.toList ++ ['\''] := by
      simp [ofValue, isBare, render]
    rw [written, complete_quoted_iff, ofValue, if_neg isBare]

/-- Not every literal is complete: a backslash escapes the quote that was to be doubled. -/
theorem not_complete_backslash : ¬∀ d ∈ Dialect.usual, ∀ type value,
    Complete (.ofName d.grammar) type value (ofValue type value).render.toList := by
  intro all
  have complete := all .mysql (by decide) .string "\\' OR 1=1 -- "
  have written : (ofValue .string "\\' OR 1=1 -- ").render.toList =
      '\'' :: escape "\\' OR 1=1 -- ".toList ++ ['\''] := by
    decide
  rw [written, complete_quoted_iff] at complete
  exact complete.1 rfl ⟨[], "' OR 1=1 -- ".toList, by decide, by decide, by decide⟩

end Literal

end FactModel
