import FactModel.Proofs.Json.Extracting

/-!
# Objects that quote no marks

An object whose texts have no braces and no backticks is extracted from every text around it that has
none either.  Its braces are nested as its values are, so that they match at its end only.
-/

namespace FactModel.Json

/-! ## Nested braces -/

/-- A text closes some braces more than it opens, and no text at its front closes more than it
opens. -/
structure Nested (surplus : Nat) (cs : List Char) : Prop where
  total : cs.count '}' = cs.count '{' + surplus
  early : ∀ front back, cs = front ++ back → back ≠ [] → front.count '}' ≤ front.count '{'

theorem Nested.front_le {cs front back : List Char} (nested : Nested 0 cs)
    (whole : cs = front ++ back) : front.count '}' ≤ front.count '{' := by
  by_cases nothing : back = []
  · rw [nothing, List.append_nil] at whole
    exact whole ▸ Nat.le_of_eq nested.total
  · exact nested.early front back whole nothing

/-- Behind a text that closes what it opens the count goes on. -/
theorem Nested.append {surplus : Nat} {cs ds : List Char} (first : Nested 0 cs)
    (second : Nested surplus ds) : Nested surplus (cs ++ ds) where
  total := by
    rw [List.count_append, List.count_append, first.total, second.total]
    omega
  early := by
    intro front back whole more
    rcases List.append_eq_append_iff.mp whole with ⟨between, rfl, rest⟩ | ⟨between, rfl, -⟩
    · have le := second.early between back rest more
      rw [List.count_append, List.count_append, first.total]
      omega
    · exact first.front_le rfl

theorem nested_of_not_mem {cs : List Char} (noOpen : '{' ∉ cs) (noClose : '}' ∉ cs) :
    Nested 0 cs where
  total := by rw [List.count_eq_zero_of_not_mem noOpen, List.count_eq_zero_of_not_mem noClose]
  early := by
    rintro front back rfl -
    rw [List.count_eq_zero_of_not_mem fun mem => noClose (List.mem_append_left back mem)]
    exact Nat.zero_le _

theorem nested_brace : Nested 1 ['}'] where
  total := by decide
  early := by
    intro front back whole more
    rcases List.cons_eq_append_iff.mp whole with ⟨rfl, -⟩ | ⟨front', rfl, nothing⟩
    · exact Nat.le_refl _
    · exact absurd (List.append_eq_nil_iff.mp nothing.symm).2 more

/-- An opening brace matches the one that is closed too much. -/
theorem Nested.cons {cs : List Char} (nested : Nested 1 cs) : Nested 0 ('{' :: cs) where
  total := by
    have total := nested.total
    simp
    omega
  early := by
    intro front back whole more
    rcases List.cons_eq_append_iff.mp whole with ⟨rfl, -⟩ | ⟨front, rfl, rest⟩
    · exact Nat.le_refl _
    · have early := nested.early front back rest more
      simp
      omega

theorem Nested.matchesLast {cs : List Char} (nested : Nested 1 cs) : MatchesLast ('{' :: cs) := by
  intro front back whole ne
  rcases List.cons_eq_append_iff.mp whole with ⟨rfl, -⟩ | ⟨front, rfl, rest⟩
  · contradiction
  · have total := nested.total
    by_cases nothing : back = []
    · subst nothing
      rw [List.append_nil] at rest
      subst rest
      refine iff_of_true ?_ rfl
      simp
      omega
    · have early := nested.early front back rest nothing
      refine iff_of_false ?_ nothing
      simp
      omega

/-! ## Calm texts -/

/-- A text without backticks, and without braces in its texts in quotes. -/
inductive Calm : List Char → Prop where
  | nil : Calm []
  | plain {c : Char} {cs : List Char} (double : c ≠ '"') (tick : c ≠ '`') (rest : Calm cs) :
    Calm (c :: cs)
  | text {t cs : List Char} (body : Body t) (unmarked : Unmarked t) (rest : Calm cs) :
    Calm ('"' :: (t ++ '"' :: cs))

namespace Calm

variable {cs : List Char}

theorem not_mem (calm : Calm cs) : '`' ∉ cs := by
  induction calm with
  | nil => exact List.not_mem_nil
  | plain double tick _ ih => simp [ih, Ne.symm tick]
  | text body unmarked _ ih => simp [ih, unmarked.2.2]

theorem of_cons {c : Char} (calm : Calm (c :: cs)) (double : c ≠ '"') : Calm cs := by
  cases calm with
  | plain _ _ rest => exact rest
  | text => contradiction

theorem of_append {front : List Char} (calm : Calm (front ++ cs)) (double : '"' ∉ front) :
    Calm cs := by
  induction front with
  | nil => exact calm
  | cons c front ih =>
    rw [List.mem_cons, not_or] at double
    exact ih (calm.of_cons (Ne.symm double.1)) double.2

theorem of_text {t : List Char} (calm : Calm ('"' :: (t ++ '"' :: cs))) (body : Body t) :
    Unmarked t ∧ Calm cs := by
  generalize isText : '"' :: (t ++ '"' :: cs) = ts at calm
  cases calm with
  | nil => contradiction
  | plain double => exact absurd (List.cons.inj isText).1.symm double
  | text body' unmarked rest =>
    have same := (List.cons.inj isText).2
    obtain rfl := body.rest_unique body' same
    obtain rfl := List.append_cancel_right same
    exact ⟨unmarked, rest⟩

end Calm

/-- What stands in front of the rest of a calm text closes some braces more than it opens. -/
def Passes (surplus : Nat) (cs rest : List Char) : Prop :=
  Calm rest ∧ ∃ front, cs = front ++ rest ∧ Nested surplus front

theorem Passes.trans {surplus : Nat} {cs ds es : List Char} (first : Passes 0 cs ds)
    (second : Passes surplus ds es) : Passes surplus cs es := by
  obtain ⟨-, front, rfl, nested⟩ := first
  obtain ⟨calm, more, rfl, moreNested⟩ := second
  exact ⟨calm, front ++ more, (List.append_assoc ..).symm, nested.append moreNested⟩

theorem Passes.cons {cs rest : List Char} (inner : Passes 1 cs rest) : Passes 0 ('{' :: cs) rest := by
  obtain ⟨calm, front, rfl, nested⟩ := inner
  exact ⟨calm, '{' :: front, rfl, nested.cons⟩

namespace Calm

variable {cs rest : List Char}

theorem passes_append {front : List Char} (calm : Calm (front ++ rest)) (double : '"' ∉ front)
    (noOpen : '{' ∉ front) (noClose : '}' ∉ front) : Passes 0 (front ++ rest) rest :=
  ⟨calm.of_append double, front, rfl, nested_of_not_mem noOpen noClose⟩

theorem passes_gap (calm : Calm cs) : Passes 0 cs (skipGap cs) := by
  have notGap (c : Char) (solid : isGap c = false) : c ∉ cs.takeWhile isGap := by
    intro mem
    rw [List.all_eq_true.mp List.all_takeWhile c mem] at solid
    contradiction
  have whole : cs = cs.takeWhile isGap ++ skipGap cs := List.takeWhile_append_dropWhile.symm
  rw [whole] at calm
  have passes := calm.passes_append (notGap _ (by decide)) (notGap _ (by decide))
    (notGap _ (by decide))
  rwa [← whole] at passes

theorem passes_mark {c : Char} (calm : Calm cs) (next : skipGap cs = c :: rest)
    (mark : c ≠ '"' ∧ c ≠ '{' ∧ c ≠ '}') : Passes 0 cs rest := by
  have first := calm.passes_gap
  rw [next] at first
  refine first.trans ?_
  have calm : Calm ([c] ++ rest) := first.1
  refine calm.passes_append ?_ ?_ ?_
  · simpa using mark.1.symm
  · simpa using mark.2.1.symm
  · simpa using mark.2.2.symm

theorem passes_close (calm : Calm cs) (closes : skipGap cs = '}' :: rest) : Passes 1 cs rest := by
  have first := calm.passes_gap
  rw [closes] at first
  exact first.trans ⟨first.1.of_cons (by decide), ['}'], rfl, nested_brace⟩

theorem passes_text {t : List Char} (calm : Calm ('"' :: (t ++ '"' :: rest))) (body : Body t) :
    Passes 0 ('"' :: (t ++ '"' :: rest)) rest := by
  obtain ⟨⟨noOpen, noClose, -⟩, restCalm⟩ := calm.of_text body
  refine ⟨restCalm, '"' :: (t ++ ['"']), by simp, nested_of_not_mem ?_ ?_⟩
  · simp [noOpen]
  · simp [noClose]

end Calm

/-- How many braces more a part closes than it opens: members close the one in front of them. -/
def Part.surplus : Part → Nat
  | .value | .elements => 0
  | .members => 1

/-- What is read of a calm text nests its braces. -/
theorem Reads.passes {part : Part} {cs rest : List Char} (reads : Reads part cs rest)
    (calm : Calm cs) : Passes part.surplus cs rest := by
  induction reads with
  | text body => exact calm.passes_text body
  | @simple c more rest v bare apart read =>
    have notBare (d : Char) (mark : isBare d = false) : d ∉ c :: more := by
      intro mem
      rw [bare d mem] at mark
      contradiction
    exact calm.passes_append (notBare _ (by decide)) (notBare _ (by decide)) (notBare _ (by decide))
  | noElements closes =>
    have first : Passes 0 _ _ := calm.passes_mark rfl (by decide)
    exact first.trans (first.1.passes_mark closes (by decide))
  | array goesOn elements ih =>
    have first : Passes 0 _ _ := (calm.passes_mark rfl (by decide)).trans
      (calm.of_cons (by decide)).passes_gap
    exact first.trans (ih first.1)
  | noMembers closes => exact ((calm.of_cons (by decide)).passes_close closes).cons
  | object goesOn members ih =>
    have first := (calm.of_cons (by decide)).passes_gap
    exact (first.trans (ih first.1)).cons
  | lastElement value closes ih =>
    have first := ih calm
    exact first.trans (first.1.passes_mark closes (by decide))
  | nextElement value comma later ih ihLater =>
    have first := ih calm
    have second := first.trans (first.1.passes_mark comma (by decide))
    have third := second.trans second.1.passes_gap
    exact third.trans (ihLater third.1)
  | lastMember name colon value closes ih =>
    have first := calm.passes_text name
    have second := first.trans (first.1.passes_mark colon (by decide))
    have third := second.trans second.1.passes_gap
    have fourth := third.trans (ih third.1)
    exact fourth.trans (fourth.1.passes_close closes)
  | nextMember name colon value comma later ih ihLater =>
    have first := calm.passes_text name
    have second := first.trans (first.1.passes_mark colon (by decide))
    have third := second.trans second.1.passes_gap
    have fourth := third.trans (ih third.1)
    have fifth := fourth.trans (fourth.1.passes_mark comma (by decide))
    have sixth := fifth.trans fifth.1.passes_gap
    exact sixth.trans (ihLater sixth.1)

/-- Behind the opening brace of an object one brace more is closed than opened. -/
theorem Reads.passes_object {cs rest : List Char} (reads : Reads .value ('{' :: cs) rest)
    (calm : Calm cs) : Passes 1 cs rest := by
  generalize isObject : '{' :: cs = ds at reads
  generalize isValue : Part.value = part at reads
  cases reads with
  | noMembers closes =>
    obtain ⟨-, rfl⟩ := List.cons.inj isObject
    exact calm.passes_close closes
  | object goesOn members =>
    obtain ⟨-, rfl⟩ := List.cons.inj isObject
    exact calm.passes_gap.trans (members.passes calm.passes_gap.1)
  | simple bare =>
    obtain ⟨rfl, -⟩ := List.cons.inj isObject
    exact absurd (bare '{' List.mem_cons_self) (by decide)
  | text | noElements | array => exact absurd (List.cons.inj isObject).1 (by decide)
  | lastElement | nextElement | lastMember | nextMember => contradiction

theorem Written.matchesLast {cs : List Char} {members : List (String × Json)}
    (written : Written cs members) (calm : Calm cs) : MatchesLast cs := by
  obtain ⟨rest, gaps, reads⟩ := written.exists_reads
  obtain ⟨more, rfl⟩ := written.exists_cons
  obtain ⟨-, front, whole, nested⟩ := reads.passes_object (calm.of_cons (by decide))
  have nothing : rest = [] := by
    by_contra ne
    have ends := written.ends
    rw [whole, ← List.cons_append, List.getLast?_append, Option.or_of_isSome (by simpa using ne)]
      at ends
    exact absurd (skipGap_ne_nil_iff.mpr ⟨_, List.mem_of_getLast? ends, by decide⟩) (not_not.mpr gaps)
  rw [nothing, List.append_nil] at whole
  exact whole ▸ nested.matchesLast

/-- An object that quotes no marks is extracted from the text around it and from a fence of its
own. -/
theorem extracted_of_calm {u o w : String} {ms : List (String × Json)}
    (written : Written o.toList ms) (calm : Calm o.toList) (before : Unmarked u.toList)
    (behind : Unmarked w.toList) :
    extract (u ++ o ++ w) = .ok (.object ms) ∧
      extract (u ++ "```json\n" ++ o ++ "\n```" ++ w) = .ok (.object ms) := by
  have last := written.matchesLast calm
  have fails : FenceFails o.toList := by
    intro body found
    rw [fenced?_of_not_mem calm.not_mem] at found
    contradiction
  rw [extract_text, extract_block, written.firstObject_text_iff before behind,
    written.firstObject_block_iff before behind]
  exact ⟨.inr ⟨fails, .inl last⟩, .inr last⟩

end FactModel.Json
