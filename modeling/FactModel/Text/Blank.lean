/-!
# Blank characters, words and lines

Names and facts are compared after their white space is normalised.  This module fixes which
characters are blank and which end a line, and cuts a text into words and into lines.
-/

namespace FactModel.Text

/-- Whether a character is white space: the ASCII blanks, the four information separators, the
next-line control and the Unicode space separators.  The zero-width space is not blank. -/
def isBlank (c : Char) : Bool :=
  let n := c.toNat
  (9 ≤ n && n ≤ 13) || (28 ≤ n && n ≤ 32) || n == 0x85 || n == 0xA0 || n == 0x1680 ||
    (0x2000 ≤ n && n ≤ 0x200A) || n == 0x2028 || n == 0x2029 || n == 0x202F || n == 0x205F ||
    n == 0x3000

/-- Whether a character is white space and no information separator. -/
def isSpace (c : Char) : Bool :=
  isBlank c && !(28 ≤ c.toNat && c.toNat ≤ 31)

/-- Whether a character ends a line. -/
def isLineBreak (c : Char) : Bool :=
  let n := c.toNat
  (10 ≤ n && n ≤ 13) || (28 ≤ n && n ≤ 30) || n == 0x85 || n == 0x2028 || n == 0x2029

/-- Whatever ends a line is blank. -/
theorem isBlank_of_isLineBreak {c : Char} (h : isLineBreak c = true) : isBlank c = true := by
  simp only [isLineBreak, isBlank, Bool.or_eq_true, Bool.and_eq_true, decide_eq_true_eq,
    beq_iff_eq] at h ⊢
  omega

/-- Drops the characters satisfying `p` at the end of a text. -/
def trimEnd (p : Char → Bool) (cs : List Char) : List Char :=
  (cs.reverse.dropWhile p).reverse

/-- Drops the characters satisfying `p` at both ends of a text. -/
def trimBoth (p : Char → Bool) (cs : List Char) : List Char :=
  trimEnd p (cs.dropWhile p)

/-- Drops the blanks at both ends of a text. -/
def trim (cs : List Char) : List Char :=
  trimEnd isBlank (cs.dropWhile isBlank)

/-- Puts a character in front of the first part of a cut text. -/
def attach (c : Char) : List (List Char) → List (List Char)
  | [] => [[c]]
  | part :: parts => (c :: part) :: parts

/-- The maximal runs of characters that are not blank. -/
def words : List Char → List (List Char)
  | [] => []
  | c :: cs =>
    if isBlank c then words cs
    else if cs.head?.all isBlank then [c] :: words cs
    else attach c (words cs)

/-- Joins words by single spaces. -/
def unwords (ws : List (List Char)) : List Char :=
  (ws.intersperse [' ']).flatten

/-- One space between words and none around them. -/
def squeeze (cs : List Char) : List Char :=
  unwords (words cs)

/-- The lines of a text without their ends.  A carriage return and a line feed together end one
line, and a break at the end of the text opens no further line. -/
def lines : List Char → List (List Char)
  | [] => []
  | '\r' :: '\n' :: cs => [] :: lines cs
  | c :: cs => if isLineBreak c then [] :: lines cs else attach c (lines cs)

/-- Every word is a nonempty run without blanks. -/
theorem words_isWord (cs : List Char) :
    ∀ w ∈ words cs, w ≠ [] ∧ ∀ c ∈ w, isBlank c = false := by
  induction cs with
  | nil => simp [words]
  | cons c cs ih =>
    intro w mem
    unfold words at mem
    split at mem
    · exact ih w mem
    · next notBlank =>
      have solid : isBlank c = false := by simpa using notBlank
      split at mem
      · rcases List.mem_cons.1 mem with rfl | later
        · simp [solid]
        · exact ih w later
      · cases cut : words cs with
        | nil =>
          rw [cut] at mem
          have : w = [c] := by simpa [attach] using mem
          subst this
          simp [solid]
        | cons first rest =>
          rw [cut] at mem
          rcases List.mem_cons.1 mem with rfl | later
          · have := (ih first (by simp [cut])).2
            simp only [ne_eq, reduceCtorEq, not_false_eq_true, List.mem_cons, forall_eq_or_imp,
              solid, true_and]
            exact this
          · exact ih w (by rw [cut]; exact List.mem_cons_of_mem _ later)

end FactModel.Text
