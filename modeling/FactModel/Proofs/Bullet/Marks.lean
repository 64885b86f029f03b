import FactModel.Bullet.Mark
import FactModel.Proofs.Text.Tidy

/-!
# Marking and unmarking a sentence

A sentence with names in bold and a period behind it is read as the sentence without these marks,
together with the keys of the names that were in bold.
-/

namespace FactModel.Bullet

open FactModel.Text

theorem boldHere_of_ne {c : Char} (plain : c ≠ '*') (cs : List Char) : boldHere (c :: cs) = none := by
  unfold boldHere
  split
  · next same =>
    cases same
    contradiction
  · rfl

@[simp]
theorem unbold_nil : unbold [] = ([], []) := by
  rw [unbold]
  rfl

/-- Up to the first asterisk nothing is in bold. -/
theorem unbold_append {front : List Char} (plain : '*' ∉ front) (cs : List Char) :
    unbold (front ++ cs) = (front ++ (unbold cs).1, (unbold cs).2) := by
  induction front with
  | nil => rfl
  | cons c front ih =>
    rw [List.mem_cons, not_or] at plain
    have none := boldHere_of_ne (Ne.symm plain.1) (front ++ cs)
    rw [List.cons_append, unbold]
    split
    · next found =>
      rw [none] at found
      contradiction
    · simp only [ih plain.2, List.cons_append]

theorem unbold_of_not_mem {cs : List Char} (plain : '*' ∉ cs) : unbold cs = (cs, []) := by
  simpa using unbold_append plain []

/-- A name in bold. -/
def marked (name : List Char) : List Char :=
  "**".toList ++ name ++ "**".toList

theorem boldHere_marked {name : List Char} (ne : name ≠ []) (plain : '*' ∉ name)
    (rest : List Char) : boldHere (marked name ++ rest) = some (name, rest) := by
  have inName : ∀ c ∈ name, decide (c ≠ '*') = true := by
    intro c mem
    rw [decide_eq_true_eq]
    rintro rfl
    exact plain mem
  have taken : (name ++ '*' :: '*' :: rest).takeWhile (· ≠ '*') = name := by
    rw [List.takeWhile_append_of_pos inName]
    simp
  have dropped : (name ++ '*' :: '*' :: rest).dropWhile (· ≠ '*') = '*' :: '*' :: rest := by
    rw [List.dropWhile_append_of_pos inName]
    simp
  have form : marked name ++ rest = '*' :: '*' :: (name ++ '*' :: '*' :: rest) := by
    simp [marked]
  obtain ⟨c, inner, rfl⟩ := List.exists_cons_of_ne_nil ne
  rw [form, boldHere, taken, dropped]
  rfl

theorem unbold_marked {name : List Char} (ne : name ≠ []) (plain : '*' ∉ name)
    (rest : List Char) :
    unbold (marked name ++ rest) = (name ++ (unbold rest).1, name :: (unbold rest).2) := by
  rw [unbold]
  split
  · next inner after found =>
    rw [boldHere_marked ne plain] at found
    cases found
    rfl
  · next found =>
    rw [boldHere_marked ne plain] at found
    contradiction

theorem eq_of_boldHere {cs inner rest : List Char} (found : boldHere cs = some (inner, rest)) :
    cs = marked inner ++ rest := by
  unfold boldHere at found
  split at found
  · next tail =>
    split at found
    · next c more after taken dropped =>
      cases found
      have whole := List.takeWhile_append_dropWhile (p := (· ≠ '*')) (l := tail)
      rw [taken, dropped] at whole
      simp [marked, ← whole]
    · contradiction
  · contradiction

/-- Of a text nothing but asterisks is lost when its marks are removed. -/
theorem mem_unbold {cs : List Char} {c : Char} (mem : c ∈ cs) : c = '*' ∨ c ∈ (unbold cs).1 := by
  induction cs using unbold.induct with
  | case1 cs inner rest found _ _ _ _ ih =>
    have form := eq_of_boldHere found
    have unmarked : (unbold cs).1 = inner ++ (unbold rest).1 := by
      rw [unbold]
      split
      · next found' => cases found.symm.trans found'; rfl
      · next found' => simp [found] at found'
    rw [form] at mem
    simp only [marked, List.mem_append] at mem
    rw [unmarked, List.mem_append]
    rcases mem with ((opening | within) | closing) | later
    · exact .inl (by simpa using opening)
    · exact .inr (.inl within)
    · exact .inl (by simpa using closing)
    · exact (ih later).imp_right .inr
  | case2 found => contradiction
  | case3 d rest found _ _ _ ih =>
    have unmarked : (unbold (d :: rest)).1 = d :: (unbold rest).1 := by
      rw [unbold]
      split
      · next found' => simp [found] at found'
      · rfl
    rw [unmarked]
    rcases List.mem_cons.mp mem with rfl | later
    · exact .inr List.mem_cons_self
    · exact (ih later).imp_right (List.mem_cons_of_mem _)

/-- Whether a character is an end mark, which is dropped at the end of a bullet. -/
def isEndMark (c : Char) : Bool :=
  c == '.' || c == ';'

/-- A tidy sentence is read without its marks and its period. -/
theorem clean_eq {body sentence : List Char} {names : List (List Char)}
    (unmarked : unbold body = (sentence ++ ['.'], names)) (tidy : Tidy sentence)
    (ends : ∀ c ∈ sentence.getLast?, isEndMark c = false) :
    clean body =
      { text := String.ofList sentence
        bold := (names.map fun name => Name.key (String.ofList name)).eraseDups } := by
  have whole : Tidy (sentence ++ ['.']) := tidy.append (by decide)
  have cut : trim (trimEnd isEndMark (squeeze (sentence ++ ['.']))) = sentence := by
    rw [whole, trimEnd_concat (by decide) ends, tidy.trim_eq]
  simp only [clean, unmarked]
  change Clean.mk (String.ofList (trim (trimEnd isEndMark (squeeze _)))) _ = _
  rw [cut]

end FactModel.Bullet
