import FactModel.Proofs.Text.Keys

/-!
# The words of identifiers

The passes that make an identifier out of a name come to this: lower-case words are joined by
underscores.  There is no underscore in a word, so that an identifier falls into its words again.  It
is therefore its own identifier, and so is every text of that shape.
-/

namespace FactModel.Name

open FactModel.Text

/-! ## Words -/

/-- The words of an identifier: maximal runs of ASCII letters and digits, cut at humps. -/
def identifierWords : List Char → List (List Char)
  | [] => []
  | c :: cs =>
    if isIdentifierChar c then
      if cs.head?.all (fun d => !isIdentifierChar d || isHump c d) then [c] :: identifierWords cs
      else attach c (identifierWords cs)
    else identifierWords cs

/-- Identifier words are made of identifier characters. -/
theorem isIdentifierChar_of_mem {cs w : List Char} (mem : w ∈ identifierWords cs) {c : Char}
    (cMem : c ∈ w) : isIdentifierChar c = true := by
  induction cs generalizing w with
  | nil => simp [identifierWords] at mem
  | cons d cs ih =>
    rw [identifierWords] at mem
    split at mem
    · next letter =>
      split at mem
      · rcases List.mem_cons.mp mem with rfl | later
        · rwa [List.mem_singleton.mp cMem]
        · exact ih later cMem
      · cases cut : identifierWords cs with
        | nil =>
          rw [cut, attach, List.mem_singleton] at mem
          subst mem
          rwa [List.mem_singleton.mp cMem]
        | cons first rest =>
          rw [cut] at mem ih
          rcases List.mem_cons.mp mem with rfl | later
          · rcases List.mem_cons.mp cMem with rfl | inFirst
            · exact letter
            · exact ih List.mem_cons_self inFirst
          · exact ih (List.mem_cons_of_mem _ later) cMem
    · exact ih mem cMem

theorem identifierWords_eq_nil_iff {cs : List Char} :
    identifierWords cs = [] ↔ ∀ c ∈ cs, isIdentifierChar c = false := by
  induction cs with
  | nil => simp [identifierWords]
  | cons c cs ih =>
    rw [identifierWords]
    by_cases letter : isIdentifierChar c = true
    · rw [if_pos letter]
      split
      · simp [letter]
      · cases identifierWords cs <;> simp [attach, letter]
    · rw [if_neg letter, ih]
      simp [letter]

theorem ne_nil_of_mem_identifierWords {cs w : List Char} (mem : w ∈ identifierWords cs) :
    w ≠ [] := by
  induction cs generalizing w with
  | nil => simp [identifierWords] at mem
  | cons c cs ih =>
    rw [identifierWords] at mem
    split at mem
    · split at mem
      · rcases List.mem_cons.mp mem with rfl | later
        · simp
        · exact ih later
      · cases cut : identifierWords cs with
        | nil =>
          rw [cut, attach, List.mem_singleton] at mem
          simp [mem]
        | cons first rest =>
          rw [cut, attach] at mem
          rcases List.mem_cons.mp mem with rfl | later
          · simp
          · exact ih (cut ▸ List.mem_cons_of_mem _ later)
    · exact ih mem

/-- No word goes on behind a character that belongs to none. -/
theorem identifierWords_append {c : Char} (between : isIdentifierChar c = false)
    (cs ds : List Char) :
    identifierWords (cs ++ c :: ds) = identifierWords cs ++ identifierWords ds := by
  induction cs with
  | nil => simp [identifierWords, between]
  | cons a cs ih =>
    rw [List.cons_append, identifierWords, identifierWords, ih]
    by_cases letter : isIdentifierChar a = true
    · rw [if_pos letter, if_pos letter]
      cases cs with
      | nil => simp [identifierWords, between]
      | cons b cs =>
        have next : (b :: cs ++ c :: ds).head? = (b :: cs).head? := rfl
        rw [next]
        by_cases ends : (b :: cs).head?.all (fun d => !isIdentifierChar d || isHump a d) = true
        · rw [if_pos ends, if_pos ends, List.cons_append]
        · rw [if_neg ends, if_neg ends]
          have inside : isIdentifierChar b = true := by
            by_contra other
            simp [other] at ends
          obtain ⟨w, ws, cut⟩ : ∃ w ws, identifierWords (b :: cs) = w :: ws :=
            List.exists_cons_of_ne_nil fun none => by
              simp [identifierWords_eq_nil_iff.mp none b List.mem_cons_self] at inside
          rw [cut]
          rfl
    · rw [if_neg letter, if_neg letter]

/-- An identifier character begins a word. -/
theorem identifierWords_cons {c : Char} (letter : isIdentifierChar c = true) (cs : List Char) :
    ∃ w ws, identifierWords (c :: cs) = (c :: w) :: ws := by
  rw [identifierWords, if_pos letter]
  split
  · exact ⟨[], _, rfl⟩
  · cases identifierWords cs with
    | nil => exact ⟨[], [], rfl⟩
    | cons w ws => exact ⟨w, ws, rfl⟩

/-- What holds of the ASCII letters and digits, one by one, holds of all identifier characters. -/
theorem of_isIdentifierChar {P : Char → Prop}
    (ascii : ∀ n < 123, isIdentifierChar (Char.ofNat n) = true → P (Char.ofNat n)) {c : Char}
    (letter : isIdentifierChar c = true) : P c := by
  have below : c.toNat < 123 := Nat.lt_succ_of_le (bounds_of_isAlphanum letter).2
  have checked := ascii c.toNat below
  rw [Char.ofNat_toNat] at checked
  exact checked letter

theorem isIdentifierChar_of_isBlank {c : Char} (blank : isBlank c = true) :
    isIdentifierChar c = false := by
  by_contra letter
  have bounds := bounds_of_isAlphanum (eq_true_of_ne_false letter)
  rw [isBlank_eq_false_of_toNat (by omega) (by omega)] at blank
  contradiction

/-- A text goes on with another word behind a character that no identifier character follows. -/
theorem identifierWords_cons_of_ends {c : Char} {cs : List Char}
    (ends : cs.head?.all (fun d => !isIdentifierChar d) = true) :
    identifierWords (c :: cs) = identifierWords [c] ++ identifierWords cs := by
  have cut : cs.head?.all (fun d => !isIdentifierChar d || isHump c d) = true := by
    cases cs with
    | nil => rfl
    | cons d cs =>
      rw [List.head?_cons, Option.all_some] at ends ⊢
      rw [ends, Bool.true_or]
  rw [identifierWords, cut]
  by_cases letter : isIdentifierChar c = true
  · simp [identifierWords, letter]
  · simp [identifierWords, letter]

theorem squeeze_cons_cons {c d : Char} (solid : isBlank c = false) (next : isBlank d = false)
    (cs : List Char) : squeeze (c :: d :: cs) = c :: squeeze (d :: cs) := by
  have goesOn : ¬(d :: cs).head?.all isBlank = true := by simp [next]
  obtain ⟨w, ws, cut⟩ := List.exists_cons_of_ne_nil (words_ne_nil_of_cons next cs)
  rw [squeeze, words, if_neg (by simp [solid]), if_neg goesOn, cut, squeeze, cut]
  cases ws <;> rfl

theorem head?_squeeze {c : Char} (solid : isBlank c = false) (cs : List Char) :
    (squeeze (c :: cs)).head? = some c := by
  have first : ∃ w ws, words (c :: cs) = (c :: w) :: ws := by
    rw [words, if_neg (by simp [solid])]
    split
    · exact ⟨[], _, rfl⟩
    · cases words cs with
      | nil => exact ⟨[], [], rfl⟩
      | cons w ws => exact ⟨w, ws, rfl⟩
  obtain ⟨w, ws, cut⟩ := first
  rw [squeeze, cut]
  cases ws <;> rfl

/-- The space between words does not matter. -/
theorem identifierWords_squeeze (cs : List Char) :
    identifierWords (squeeze cs) = identifierWords cs := by
  induction cs with
  | nil => rfl
  | cons c cs ih =>
    by_cases blank : isBlank c = true
    · rw [squeeze, words, if_pos blank, identifierWords,
        if_neg (by simp [isIdentifierChar_of_isBlank blank])]
      exact ih
    · have solid : isBlank c = false := eq_false_of_ne_true blank
      by_cases ends : cs.head?.all isBlank = true
      · have others : cs.head?.all (fun d => !isIdentifierChar d) = true := by
          cases cs with
          | nil => rfl
          | cons d cs => simpa using isIdentifierChar_of_isBlank (by simpa using ends)
        rw [identifierWords_cons_of_ends others, ← ih]
        rw [squeeze, words, if_neg blank, if_pos ends, squeeze]
        cases words cs with
        | nil => simp [unwords, identifierWords]
        | cons w ws => exact identifierWords_append (by decide) [c] (unwords (w :: ws))
      · cases cs with
        | nil => exact absurd rfl ends
        | cons d cs =>
          have next : isBlank d = false := by simpa using ends
          rw [squeeze_cons_cons solid next, identifierWords, identifierWords, ih,
            head?_squeeze next, List.head?_cons]

/-- Words joined by underscores begin as the first of them does. -/
theorem head?_intercalate {words : List (List Char)} (filled : ∀ w ∈ words, w ≠ []) :
    (['_'].intercalate words).head? = words.head?.bind List.head? := by
  cases words with
  | nil => rfl
  | cons w rest =>
    obtain ⟨c, w, rfl⟩ := List.exists_cons_of_ne_nil (filled w List.mem_cons_self)
    cases rest <;> simp

/-- Words joined by underscores end as the last of them does. -/
theorem getLast?_intercalate {words : List (List Char)} (filled : ∀ w ∈ words, w ≠ []) :
    (['_'].intercalate words).getLast? = words.getLast?.bind List.getLast? := by
  induction words with
  | nil => rfl
  | cons w rest ih =>
    obtain ⟨some, others⟩ := List.forall_mem_cons.mp filled
    cases rest with
    | nil => simp
    | cons v rest =>
      have inside : ['_'].intercalate (v :: rest) ≠ [] := by
        obtain ⟨c, v, rfl⟩ := List.exists_cons_of_ne_nil (others v List.mem_cons_self)
        cases rest <;> simp
      rw [List.intercalate_cons_cons, List.getLast?_append_of_ne_nil _ inside, ih others,
        List.getLast?_cons_cons]

/-! ## Lower-case words -/

/-- The words that the identifier of a name joins. -/
def lowerWords (cs : List Char) : List (List Char) :=
  (identifierWords cs).map (·.map Char.toLower)

/-- The identifier of a text, made from its words: they are joined in lower case, with one more
underscore in front of a leading digit. -/
def identifierChars (cs : List Char) : List Char :=
  let joined := ['_'].intercalate (lowerWords cs)
  if joined.head?.any Char.isDigit then '_' :: joined else joined

/-! ## Passes -/

theorem head?_cutHumps (cs : List Char) : (cutHumps cs).head? = cs.head? := by
  cases cs with
  | nil => rfl
  | cons c cs =>
    rw [cutHumps]
    split <;> rfl

theorem intercalate_cons_cons_char (c : Char) (w : List Char) (ws : List (List Char)) :
    ['_'].intercalate ((c :: w) :: ws) = c :: ['_'].intercalate (w :: ws) := by
  cases ws <;> simp

theorem map_intercalate (ws : List (List Char)) : (['_'].intercalate ws).map Char.toLower =
    ['_'].intercalate (ws.map (·.map Char.toLower)) := by
  induction ws with
  | nil => rfl
  | cons w ws ih =>
    cases ws with
    | nil => simp
    | cons v ws =>
      rw [List.map_cons, List.map_cons, List.intercalate_cons_cons, List.intercalate_cons_cons,
        List.map_append, List.map_append, ih]
      rfl

/-- Only letters and digits stand at a hump. -/
theorem isIdentifierChar_of_isHump {c d : Char} (hump : isHump c d = true) :
    isIdentifierChar c = true ∧ isIdentifierChar d = true := by
  simp only [isHump, Bool.and_eq_true, Bool.or_eq_true] at hump
  change (c.isUpper || c.isLower || c.isDigit) = true ∧ (d.isUpper || d.isLower || d.isDigit) = true
  simp only [Bool.or_eq_true]
  tauto

/-- The passes over a text join its words by underscores.  One underscore more stands in front when
the text does not begin with a word, and there may be one behind. -/
def PassesJoin (cs : List Char) : Prop :=
  ∃ back, replaceRuns (cutHumps cs) = (if cs.head?.all isIdentifierChar then [] else ['_']) ++
      ['_'].intercalate (identifierWords cs) ++ back ∧
    (∀ c ∈ back, c = '_') ∧ (identifierWords cs = [] → back = [])

section PassesJoin

variable {c d : Char} {cs : List Char}

/-- A word ends at a hump, where an underscore is put in. -/
theorem PassesJoin.hump (isHump : isHump c d = true) (join : PassesJoin (d :: cs)) :
    PassesJoin (c :: d :: cs) := by
  obtain ⟨back, passes, underscores, -⟩ := join
  obtain ⟨letter, next⟩ := isIdentifierChar_of_isHump isHump
  obtain ⟨w, ws, cut⟩ := identifierWords_cons next cs
  have begins : (cutHumps (d :: cs)).head?.all isIdentifierChar = true := by
    rw [head?_cutHumps]
    exact next
  have words : identifierWords (c :: d :: cs) = [c] :: (d :: w) :: ws := by
    rw [identifierWords, if_pos letter, if_pos (by simp [isHump]), cut]
  rw [if_pos (show (d :: cs).head?.all isIdentifierChar = true from next), cut] at passes
  refine ⟨back, ?_, underscores, by simp [words]⟩
  rw [if_pos (show (c :: d :: cs).head?.all isIdentifierChar = true from letter), cutHumps,
    if_pos (show (d :: cs).head?.any (Name.isHump c) = true from isHump), replaceRuns,
    if_pos letter, replaceRuns, if_neg (by decide), if_pos begins, passes, words,
    List.intercalate_cons_cons]
  rfl

theorem replaceRuns_cutHumps_cons (letter : isIdentifierChar c = true)
    (noHump : ¬isHump c d = true) :
    replaceRuns (cutHumps (c :: d :: cs)) = c :: replaceRuns (cutHumps (d :: cs)) := by
  rw [cutHumps, if_neg (show ¬(d :: cs).head?.any (isHump c) = true from noHump), replaceRuns,
    if_pos letter]

/-- A letter goes before the word behind it. -/
theorem PassesJoin.letter (letter : isIdentifierChar c = true) (noHump : ¬isHump c d = true)
    (next : isIdentifierChar d = true) (join : PassesJoin (d :: cs)) :
    PassesJoin (c :: d :: cs) := by
  obtain ⟨back, passes, underscores, -⟩ := join
  obtain ⟨w, ws, cut⟩ := identifierWords_cons next cs
  have words : identifierWords (c :: d :: cs) = (c :: d :: w) :: ws := by
    rw [identifierWords, if_pos letter, if_neg (by simp [noHump, next]), cut]
    rfl
  rw [if_pos (show (d :: cs).head?.all isIdentifierChar = true from next), cut] at passes
  refine ⟨back, ?_, underscores, by simp [words]⟩
  rw [if_pos (show (c :: d :: cs).head?.all isIdentifierChar = true from letter),
    replaceRuns_cutHumps_cons letter noHump, passes, words, intercalate_cons_cons_char c]
  rfl

/-- A letter that no word follows directly is the end of one. -/
theorem PassesJoin.last (letter : isIdentifierChar c = true) (next : ¬isIdentifierChar d = true)
    (join : PassesJoin (d :: cs)) : PassesJoin (c :: d :: cs) := by
  obtain ⟨back, passes, underscores, alone⟩ := join
  have noHump : ¬isHump c d = true := fun hump => next (isIdentifierChar_of_isHump hump).2
  have words : identifierWords (c :: d :: cs) = [c] :: identifierWords (d :: cs) := by
    rw [identifierWords, if_pos letter, if_pos (by simp [next])]
  have begins : (c :: d :: cs).head?.all isIdentifierChar = true := letter
  rw [if_neg (show ¬(d :: cs).head?.all isIdentifierChar = true from next)] at passes
  rw [PassesJoin, if_pos begins, replaceRuns_cutHumps_cons letter noHump, passes, words]
  cases cut : identifierWords (d :: cs) with
  | nil =>
    refine ⟨['_'], ?_, by simp, by simp⟩
    rw [alone cut]
    rfl
  | cons w ws =>
    refine ⟨back, ?_, underscores, by simp⟩
    rw [List.intercalate_cons_cons]
    rfl

/-- What belongs to no word is replaced by an underscore, together with what follows like it. -/
theorem PassesJoin.skip (noLetter : ¬isIdentifierChar c = true) (join : PassesJoin cs) :
    PassesJoin (c :: cs) := by
  obtain ⟨back, passes, underscores, alone⟩ := join
  have words : identifierWords (c :: cs) = identifierWords cs := by
    rw [identifierWords, if_neg noLetter]
  have uncut : cutHumps (c :: cs) = c :: cutHumps cs := by
    rw [cutHumps, if_neg]
    intro hump
    cases cs with
    | nil => contradiction
    | cons d cs => exact noLetter (isIdentifierChar_of_isHump hump).1
  refine ⟨back, ?_, underscores, fun none => alone (words ▸ none)⟩
  rw [if_neg (show ¬(c :: cs).head?.all isIdentifierChar = true from noLetter), words, uncut,
    replaceRuns, if_neg noLetter, head?_cutHumps, passes]
  split
  · rfl
  · rfl

end PassesJoin

theorem passesJoin (cs : List Char) : PassesJoin cs := by
  induction cs with
  | nil => exact ⟨[], rfl, by simp, fun _ => rfl⟩
  | cons c cs ih =>
    by_cases letter : isIdentifierChar c = true
    · cases cs with
      | nil =>
        refine ⟨[], ?_, by simp, by simp⟩
        simp [cutHumps, replaceRuns, identifierWords, letter]
      | cons d cs =>
        by_cases hump : isHump c d = true
        · exact ih.hump hump
        · by_cases next : isIdentifierChar d = true
          · exact ih.letter letter hump next
          · exact ih.last letter next
    · exact ih.skip letter

/-- Of characters to be dropped around others that do not begin or end with such, all are. -/
theorem trimBoth_append {p : Char → Bool} {front middle back : List Char}
    (before : ∀ c ∈ front, p c = true) (after : ∀ c ∈ back, p c = true)
    (begins : ∀ c ∈ middle.head?, p c = false) (ends : ∀ c ∈ middle.getLast?, p c = false) :
    trimBoth p (front ++ middle ++ back) = middle := by
  rw [trimBoth, List.append_assoc, List.dropWhile_append_of_pos before]
  cases last : middle.getLast? with
  | none =>
    have nothing : back.dropWhile p = [] := by
      rw [← List.append_nil back, List.dropWhile_append_of_pos after]
      rfl
    rw [List.getLast?_eq_none_iff.mp last, List.nil_append, nothing]
    rfl
  | some c =>
    have goesOn : (middle ++ back).dropWhile p = middle ++ back := by
      apply dropWhile_eq_self
      cases middle with
      | nil => contradiction
      | cons d middle => exact begins
    have nothing : trimEnd p back = [] := by
      have reversed : ∀ c ∈ back.reverse, p c = true := fun c mem => after c (List.mem_reverse.mp mem)
      rw [trimEnd, ← List.append_nil back.reverse, List.dropWhile_append_of_pos reversed]
      rfl
    rw [goesOn, trimEnd_append last (ends c last), nothing, List.append_nil]

/-- An identifier is made from the words of its name. -/
theorem identifier_eq (name : String) :
    identifier name = String.ofList (identifierChars name.toList) := by
  obtain ⟨back, passes, underscores, -⟩ := passesJoin (squeeze name.toList)
  have filled : ∀ w ∈ identifierWords name.toList, w ≠ [] := fun w mem =>
    ne_nil_of_mem_identifierWords mem
  have plain : ∀ w ∈ identifierWords name.toList, ∀ c ∈ w, (c == '_') = false := by
    intro w mem c cMem
    have letter := isIdentifierChar_of_mem mem cMem
    exact of_isIdentifierChar (P := fun c => (c == '_') = false) (by decide) letter
  have trimmed : trimBoth (· == '_') (replaceRuns (cutHumps (squeeze name.toList))) =
      ['_'].intercalate (identifierWords name.toList) := by
    rw [passes, identifierWords_squeeze]
    apply trimBoth_append
    · intro c mem
      split at mem
      · contradiction
      · simpa using mem
    · simpa using underscores
    · rw [head?_intercalate filled]
      intro c mem
      obtain ⟨w, first, begins⟩ := Option.bind_eq_some_iff.mp mem
      exact plain w (List.mem_of_head? first) c (List.mem_of_head? begins)
    · rw [getLast?_intercalate filled]
      intro c mem
      obtain ⟨w, last, ends⟩ := Option.bind_eq_some_iff.mp mem
      exact plain w (List.mem_of_getLast? last) c (List.mem_of_getLast? ends)
  rw [identifier, trimmed, map_intercalate]
  rfl

theorem lowerWords_append {c : Char} (between : isIdentifierChar c = false) (cs ds : List Char) :
    lowerWords (cs ++ c :: ds) = lowerWords cs ++ lowerWords ds := by
  rw [lowerWords, identifierWords_append between, List.map_append]
  rfl

/-- The characters of identifiers, underscores apart: lower-case ASCII letters and digits. -/
def isRunChar (c : Char) : Bool :=
  c.isLower || c.isDigit

theorem isIdentifierChar_of_isRunChar {c : Char} (inRun : isRunChar c = true) :
    isIdentifierChar c = true := by
  change (c.isUpper || c.isLower || c.isDigit) = true
  rw [Bool.or_assoc]
  exact Bool.or_eq_true_iff.mpr (.inr inRun)

theorem isRunChar_toLower {c : Char} (letter : isIdentifierChar c = true) :
    isRunChar c.toLower = true :=
  of_isIdentifierChar (P := fun c => isRunChar c.toLower = true) (by decide) letter

/-- There are no capitals among them. -/
theorem isUpper_of_isRunChar {c : Char} (inRun : isRunChar c = true) : c.isUpper = false :=
  of_isIdentifierChar (P := fun c => isRunChar c = true → c.isUpper = false) (by decide)
    (isIdentifierChar_of_isRunChar inRun) inRun

theorem toLower_of_isRunChar {c : Char} (inRun : isRunChar c = true) : c.toLower = c :=
  of_isIdentifierChar (P := fun c => isRunChar c = true → c.toLower = c) (by decide)
    (isIdentifierChar_of_isRunChar inRun) inRun

theorem isRunChar_of_mem {cs w : List Char} (mem : w ∈ lowerWords cs) {c : Char} (cMem : c ∈ w) :
    isRunChar c = true := by
  obtain ⟨v, vMem, rfl⟩ := List.mem_map.mp mem
  obtain ⟨d, dMem, rfl⟩ := List.mem_map.mp cMem
  exact isRunChar_toLower (isIdentifierChar_of_mem vMem dMem)

theorem underscore_not_mem {cs w : List Char} (mem : w ∈ lowerWords cs) : '_' ∉ w :=
  fun underscore => absurd (isRunChar_of_mem mem underscore) (by decide)

theorem ne_nil_of_mem_lowerWords {cs w : List Char} (mem : w ∈ lowerWords cs) : w ≠ [] := by
  obtain ⟨v, vMem, rfl⟩ := List.mem_map.mp mem
  simpa using ne_nil_of_mem_identifierWords vMem

/-- What stands in front of the first underscore that does not come from joining words: nothing,
when the first word begins with a digit. -/
def lead (words : List (List Char)) : List (List Char) :=
  if (words.head?.bind List.head?).any Char.isDigit then [[]] else []

theorem lead_cases (words : List (List Char)) : lead words = [] ∨ lead words = [[]] := by
  unfold lead
  split
  · exact .inr rfl
  · exact .inl rfl

/-- Whether the first word begins with a digit. -/
def beginsWithDigit (words : List (List Char)) : Bool :=
  (words.head?.bind List.head?).any Char.isDigit

/-- An identifier joins its words. -/
theorem identifierChars_eq (cs : List Char) :
    identifierChars cs =
      if beginsWithDigit (lowerWords cs) then '_' :: ['_'].intercalate (lowerWords cs)
      else ['_'].intercalate (lowerWords cs) := by
  have first := head?_intercalate fun w (mem : w ∈ lowerWords cs) => ne_nil_of_mem_lowerWords mem
  rw [beginsWithDigit, ← first]
  rfl

/-! ## Plain names -/

/-- The characters of plain names: ASCII letters and digits, and the underscore. -/
def isPlainChar (c : Char) : Bool :=
  c.isAlphanum || c == '_'

/-- What holds of the plain characters, one by one, holds of all of them. -/
theorem of_isPlainChar {P : Char → Prop}
    (ascii : ∀ n < 123, isPlainChar (Char.ofNat n) = true → P (Char.ofNat n)) {c : Char}
    (plain : isPlainChar c = true) : P c := by
  have below : c.toNat < 123 := by
    rcases Bool.or_eq_true_iff.mp plain with letter | underscore
    · exact Nat.lt_succ_of_le (bounds_of_isAlphanum letter).2
    · rw [beq_iff_eq.mp underscore]
      decide
  have checked := ascii c.toNat below
  rw [Char.ofNat_toNat] at checked
  exact checked plain

/-- A name of plain characters, the first of which is no digit. -/
structure IsPlain (name : String) : Prop where
  chars : ∀ c ∈ name.toList, isPlainChar c = true
  start : ∀ c ∈ name.toList.head?, c.isDigit = false

instance (name : String) : Decidable (IsPlain name) :=
  decidable_of_iff ((∀ c ∈ name.toList, isPlainChar c = true) ∧
    ∀ c ∈ name.toList.head?, c.isDigit = false)
    ⟨fun both => ⟨both.1, both.2⟩, fun plain => ⟨plain.chars, plain.start⟩⟩

theorem IsPlain.append {first second : String} (firstPlain : IsPlain first)
    (secondPlain : IsPlain second) : IsPlain (first ++ second) := by
  constructor
  · intro c mem
    rw [String.toList_append, List.mem_append] at mem
    exact mem.elim (firstPlain.chars c) (secondPlain.chars c)
  · intro c mem
    rw [String.toList_append, List.head?_append] at mem
    rcases Option.or_eq_some_iff.mp mem with inFirst | ⟨-, inSecond⟩
    · exact firstPlain.start c inFirst
    · exact secondPlain.start c inSecond

/-- Behind what has a first character the others may be any. -/
theorem IsPlain.append_chars {first second : String} (filled : first ≠ "")
    (firstPlain : IsPlain first) (chars : ∀ c ∈ second.toList, isPlainChar c = true) :
    IsPlain (first ++ second) := by
  constructor
  · intro c mem
    rw [String.toList_append, List.mem_append] at mem
    exact mem.elim (firstPlain.chars c) (chars c)
  · rw [String.toList_append, List.head?_append_of_ne_nil _ (by simpa using filled)]
    exact firstPlain.start

theorem IsPlain.solid {name : String} (plain : IsPlain name) : Solid name :=
  fun c mem => of_isPlainChar (P := fun c => isBlank c = false) (by decide) (plain.chars c mem)

theorem isPlain_identifier (name : String) : IsPlain (identifier name) := by
  have words {c : Char} (mem : c ∈ ['_'].intercalate (lowerWords name.toList)) :
      isPlainChar c = true := by
    rcases mem_flatten_intersperse mem with rfl | ⟨w, wMem, cMem⟩
    · decide
    · have letter := isIdentifierChar_of_isRunChar (isRunChar_of_mem wMem cMem)
      exact Bool.or_eq_true_iff.mpr (.inl letter)
  have first := head?_intercalate fun w (mem : w ∈ lowerWords name.toList) =>
    ne_nil_of_mem_lowerWords mem
  rw [identifier_eq]
  constructor
  · intro c mem
    rw [String.toList_ofList, identifierChars_eq] at mem
    split at mem
    · rcases List.mem_cons.mp mem with rfl | later
      · decide
      · exact words later
    · exact words mem
  · intro c mem
    rw [String.toList_ofList, identifierChars_eq] at mem
    split at mem
    · obtain rfl := Option.some.inj mem
      decide
    · next noDigit =>
      rw [first] at mem
      simpa [beginsWithDigit, Option.mem_def.mp mem] using noDigit

/-- At its underscores an identifier falls into the words that it joins. -/
theorem splitOn_identifierChars {cs : List Char} (some : lowerWords cs ≠ []) :
    (identifierChars cs).splitOn '_' = lead (lowerWords cs) ++ lowerWords cs := by
  have parts : (['_'].intercalate (lowerWords cs)).splitOn '_' = lowerWords cs :=
    List.splitOn_intercalate '_' (fun w mem => underscore_not_mem mem) some
  rw [identifierChars_eq, lead, beginsWithDigit]
  split
  · have front : '_' :: ['_'].intercalate (lowerWords cs) =
        [] ++ '_' :: ['_'].intercalate (lowerWords cs) := rfl
    rw [front, List.splitOn_append_cons_self, parts]
    rfl
  · rw [parts]
    rfl

/-! ## Clean identifiers -/

/-- Runs of lower-case ASCII letters and digits joined by single underscores, with one underscore
more in front of them exactly when the first run begins with a digit.  Next to a run there are only
underscores or the ends of the text, so that no run can be longer. -/
structure JoinsRuns (runs : List (List Char)) (cs : List Char) : Prop where
  some : runs ≠ []
  filled : ∀ run ∈ runs, run ≠ []
  clean : ∀ run ∈ runs, ∀ c ∈ run, isRunChar c = true
  joined : cs = if beginsWithDigit runs then '_' :: ['_'].intercalate runs
    else ['_'].intercalate runs

theorem joinsRuns_identifierChars {cs : List Char} (some : lowerWords cs ≠ []) :
    JoinsRuns (lowerWords cs) (identifierChars cs) where
  some := some
  filled _ mem := ne_nil_of_mem_lowerWords mem
  clean _ mem _ cMem := isRunChar_of_mem mem cMem
  joined := identifierChars_eq cs

/-- A run is a word by itself, for there is no hump without a capital. -/
theorem identifierWords_run {run : List Char} (filled : run ≠ [])
    (clean : ∀ c ∈ run, isRunChar c = true) : identifierWords run = [run] := by
  induction run with
  | nil => contradiction
  | cons c cs ih =>
    have letter := isIdentifierChar_of_isRunChar (clean c List.mem_cons_self)
    rw [identifierWords, if_pos letter]
    cases cs with
    | nil => simp [identifierWords]
    | cons d cs =>
      have next : isRunChar d = true := clean d (by simp)
      have goesOn : ¬(d :: cs).head?.all (fun d => !isIdentifierChar d || isHump c d) = true := by
        simp [isIdentifierChar_of_isRunChar next, isHump, isUpper_of_isRunChar next]
      rw [if_neg goesOn, ih (by simp) fun c mem => clean c (List.mem_cons_of_mem _ mem)]
      rfl

/-- Joined by underscores, runs are the words again. -/
theorem identifierWords_intercalate {runs : List (List Char)} (filled : ∀ run ∈ runs, run ≠ [])
    (clean : ∀ run ∈ runs, ∀ c ∈ run, isRunChar c = true) :
    identifierWords (['_'].intercalate runs) = runs := by
  induction runs with
  | nil => rfl
  | cons run rest ih =>
    have first := identifierWords_run (filled run List.mem_cons_self) (clean run List.mem_cons_self)
    cases rest with
    | nil => simpa using first
    | cons next rest =>
      have later := ih (fun run mem => filled run (List.mem_cons_of_mem _ mem))
        fun run mem => clean run (List.mem_cons_of_mem _ mem)
      rw [List.intercalate_cons_cons, List.append_assoc, List.singleton_append,
        identifierWords_append (by decide), first, later, List.singleton_append]

/-- The words of a clean text are its runs. -/
theorem JoinsRuns.lowerWords_eq {runs : List (List Char)} {cs : List Char}
    (joins : JoinsRuns runs cs) : lowerWords cs = runs := by
  have words : identifierWords cs = runs := by
    have inner := identifierWords_intercalate joins.filled joins.clean
    rw [joins.joined]
    split
    · simpa [identifierWords, isIdentifierChar] using inner
    · exact inner
  have low : ∀ run ∈ runs, run.map Char.toLower = run := by
    intro run mem
    rw [List.map_congr_left fun c cMem => toLower_of_isRunChar (joins.clean run mem c cMem),
      List.map_id']
  rw [lowerWords, words, List.map_congr_left low, List.map_id']

/-- A clean text is its own identifier. -/
theorem JoinsRuns.identifierChars_eq {runs : List (List Char)} {cs : List Char}
    (joins : JoinsRuns runs cs) : identifierChars cs = cs := by
  rw [Name.identifierChars_eq, joins.lowerWords_eq, ← joins.joined]

theorem lowerWords_eq_nil_iff {cs : List Char} :
    lowerWords cs = [] ↔ ∀ c ∈ cs, isIdentifierChar c = false := by
  rw [lowerWords, List.map_eq_nil_iff, identifierWords_eq_nil_iff]

/-- The identifier of a name is empty just when there is no ASCII letter or digit in the name. -/
theorem identifier_eq_empty_iff {name : String} :
    identifier name = "" ↔ ∀ c ∈ name.toList, isIdentifierChar c = false := by
  rw [identifier_eq, String.ofList_eq_empty_iff, ← lowerWords_eq_nil_iff]
  unfold identifierChars
  extract_lets joined
  have joined_eq_nil_iff : joined = [] ↔ lowerWords name.toList = [] := by
    constructor
    · intro none
      by_contra some
      obtain ⟨w, ws, cut⟩ := List.exists_cons_of_ne_nil some
      have filled : ∀ w ∈ lowerWords name.toList, w ≠ [] := fun w mem => ne_nil_of_mem_lowerWords mem
      have begins := head?_intercalate filled
      obtain ⟨c, w, rfl⟩ := List.exists_cons_of_ne_nil (filled w (cut ▸ List.mem_cons_self))
      rw [show ['_'].intercalate (lowerWords name.toList) = [] from none, cut] at begins
      contradiction
    · intro none
      simp [joined, none]
  rw [← joined_eq_nil_iff]
  split
  · next digit =>
    have some : joined ≠ [] := by
      rintro none
      simp [none] at digit
    simp [some]
  · rfl

/-- An identifier is empty or clean, empty just where the name has no ASCII letter or digit, and its
own identifier. -/
theorem identifier_canonical (name : String) :
    (identifier name = "" ∨ ∃ runs, JoinsRuns runs (identifier name).toList) ∧
      (identifier name = "" ↔ ∀ c ∈ name.toList, c.isAlphanum = false) ∧
      identifier (identifier name) = identifier name := by
  by_cases none : lowerWords name.toList = []
  · have empty : identifier name = "" :=
      identifier_eq_empty_iff.mpr (lowerWords_eq_nil_iff.mp none)
    refine ⟨.inl empty, identifier_eq_empty_iff, ?_⟩
    rw [empty, identifier_eq_empty_iff]
    simp
  · have joins : JoinsRuns (lowerWords name.toList) (identifier name).toList := by
      rw [identifier_eq, String.toList_ofList]
      exact joinsRuns_identifierChars none
    refine ⟨.inr ⟨_, joins⟩, identifier_eq_empty_iff, ?_⟩
    have again : identifierChars (identifier name).toList = (identifier name).toList :=
      joins.identifierChars_eq
    rw [identifier_eq, again, String.ofList_toList]

end FactModel.Name
