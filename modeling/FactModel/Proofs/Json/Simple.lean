import FactModel.Json.NumberText
import FactModel.Json.Reader
import FactModel.Proofs.Steps

/-!
# Values without parts

Words and numbers are made of letters, digits, signs and points.  What is read of one does not
depend on what follows it, as long as that begins with another character.
-/

namespace FactModel.Json

/-- The characters of words and numbers. -/
def isBare (c : Char) : Bool :=
  c.isAlphanum || c == '+' || c == '-' || c == '.'

/-- What may follow a word or a number: nothing, or a character that does not belong to it. -/
def Apart (rest : List Char) : Prop :=
  ∀ c ∈ rest.head?, isBare c = false

theorem isBare_of_isDigit {c : Char} (digit : c.isDigit = true) : isBare c = true := by
  simp [isBare, Char.isAlphanum, digit]

/-! ## Signs -/

theorem sign_cases (cs : List Char) : (∃ more, cs = '-' :: more) ∨ (∃ more, cs = '+' :: more) ∨
    (∀ more, cs ≠ '-' :: more) ∧ ∀ more, cs ≠ '+' :: more := by
  by_cases minus : ∃ more, cs = '-' :: more
  · exact .inl minus
  · by_cases plus : ∃ more, cs = '+' :: more
    · exact .inr (.inl plus)
    · exact .inr (.inr ⟨not_exists.mp minus, not_exists.mp plus⟩)

theorem readSign_eq {cs : List Char} (noMinus : ∀ more, cs ≠ '-' :: more)
    (noPlus : ∀ more, cs ≠ '+' :: more) : readSign cs = (false, cs) := by
  rw [readSign]
  · exact noMinus
  · exact noPlus

theorem exponentPart_cons (e : Char) (cs : List Char) : exponentPart (e :: cs) =
    if e = 'e' ∨ e = 'E' then
      if (readSign cs).2.takeWhile Char.isDigit = [] then none
      else
        some (if (readSign cs).1 then -(asciiNat ((readSign cs).2.takeWhile Char.isDigit) : Int)
          else asciiNat ((readSign cs).2.takeWhile Char.isDigit),
          (readSign cs).2.dropWhile Char.isDigit)
    else none := by
  rcases sign_cases cs with ⟨more, rfl⟩ | ⟨more, rfl⟩ | ⟨noMinus, noPlus⟩
  · rfl
  · rfl
  · rw [readSign_eq noMinus noPlus, exponentPart]
    · exact noMinus
    · exact noPlus

/-- What is read of a number behind its whole part. -/
def readOnward (negative : Bool) (whole rest : List Char) : Except ReadFailure (Json × List Char) :=
  if (fractionDigits rest).1 = [] ∧ exponentPart (fractionDigits rest).2 = none then
    if Count.maxDigits < whole.length then .error (.count (.tooLong whole.length))
    else .ok (.int (if negative then -(asciiNat whole : Int) else asciiNat whole),
      (fractionDigits rest).2)
  else
    let exponent := (exponentPart (fractionDigits rest).2).getD (0, (fractionDigits rest).2)
    .ok (.decimal
      { negative, mantissa := asciiNat (whole ++ (fractionDigits rest).1)
        exponent := exponent.1 - ((fractionDigits rest).1.length : Int) }, exponent.2)

/-- A number is a whole part, perhaps behind a minus sign, and what follows it. -/
theorem readNumber_minus (cs : List Char) : readNumber ('-' :: cs) =
    match wholeDigits cs with
    | none => failAt .value ('-' :: cs)
    | some (whole, rest) => readOnward true whole rest := by
  simp only [readNumber]
  cases wholeDigits cs with
  | none => rfl
  | some read =>
    simp only
    rcases cut : fractionDigits read.2 with ⟨_ | ⟨digit, fraction⟩, after⟩ <;>
      cases exponent : exponentPart after <;> simp [readOnward, cut, exponent]

theorem readNumber_plain {cs : List Char} (noMinus : ∀ more, cs ≠ '-' :: more) : readNumber cs =
    match wholeDigits cs with
    | none => failAt .value cs
    | some (whole, rest) => readOnward false whole rest := by
  rw [readNumber]
  · simp only
    cases wholeDigits cs with
    | none => rfl
    | some read =>
      simp only
      rcases cut : fractionDigits read.2 with ⟨_ | ⟨digit, fraction⟩, after⟩ <;>
        cases exponent : exponentPart after <;> simp [readOnward, cut, exponent]
  · exact noMinus

namespace Apart

variable {rest : List Char} (apart : Apart rest)

include apart

theorem ne_cons {c : Char} (bare : isBare c = true) (cs : List Char) : rest ≠ c :: cs := by
  rintro rfl
  have := apart c rfl
  simp [bare] at this

theorem not_isDigit_head? : rest.head?.any Char.isDigit = false := by
  cases rest with
  | nil => rfl
  | cons c rest =>
    rw [List.head?_cons, Option.any_some, Bool.eq_false_iff]
    intro digit
    exact apart.ne_cons (isBare_of_isDigit digit) rest rfl

/-- Digits end in front of what is apart. -/
theorem takeWhile_append (cs : List Char) :
    (cs ++ rest).takeWhile Char.isDigit = cs.takeWhile Char.isDigit := by
  induction cs with
  | nil =>
    have noDigit := apart.not_isDigit_head?
    cases rest with
    | nil => rfl
    | cons c rest => exact List.takeWhile_cons_of_neg (by simpa using noDigit)
  | cons c cs ih => simp only [List.cons_append, List.takeWhile_cons, ih]

theorem dropWhile_append (cs : List Char) :
    (cs ++ rest).dropWhile Char.isDigit = cs.dropWhile Char.isDigit ++ rest := by
  induction cs with
  | nil =>
    have noDigit := apart.not_isDigit_head?
    cases rest with
    | nil => rfl
    | cons c rest => exact List.dropWhile_cons_of_neg (by simpa using noDigit)
  | cons c cs ih =>
    simp only [List.cons_append, List.dropWhile_cons, ih]
    split <;> rfl

theorem wholeDigits_append (cs : List Char) :
    wholeDigits (cs ++ rest) = (wholeDigits cs).map fun read => (read.1, read.2 ++ rest) := by
  have general {c : Char} (notZero : c ≠ '0') (cs : List Char) : wholeDigits (c :: cs) =
      if c.isDigit then some (c :: cs.takeWhile Char.isDigit, cs.dropWhile Char.isDigit)
      else none := by
    rw [wholeDigits]
    exact notZero
  cases cs with
  | nil =>
    have noDigit := apart.not_isDigit_head?
    cases rest with
    | nil => rfl
    | cons c rest =>
      have notDigit : ¬c.isDigit = true := by simpa using noDigit
      have notZero : c ≠ '0' := by
        rintro rfl
        exact notDigit rfl
      rw [List.nil_append, general notZero, if_neg notDigit]
      rfl
  | cons c cs =>
    by_cases zero : c = '0'
    · subst zero
      rfl
    · rw [List.cons_append, general zero, general zero, apart.takeWhile_append,
        apart.dropWhile_append]
      split <;> rfl

theorem fractionDigits_append (cs : List Char) : fractionDigits (cs ++ rest) =
    ((fractionDigits cs).1, (fractionDigits cs).2 ++ rest) := by
  have general {cs : List Char} (noPoint : ∀ rest, cs ≠ '.' :: rest) :
      fractionDigits cs = ([], cs) := by
    rw [fractionDigits]
    exact noPoint
  cases cs with
  | nil => exact general (apart.ne_cons (by decide))
  | cons c cs =>
    by_cases point : c = '.'
    · subst point
      have sameHead : (cs ++ rest).head?.any Char.isDigit = cs.head?.any Char.isDigit := by
        cases cs with
        | nil => exact apart.not_isDigit_head?
        | cons c cs => rfl
      simp only [List.cons_append, fractionDigits, sameHead, apart.takeWhile_append,
        apart.dropWhile_append]
      split <;> rfl
    · have noPoint (cs more : List Char) : c :: cs ≠ '.' :: more :=
        fun same => point (List.cons.inj same).1
      rw [List.cons_append, general (noPoint _), general (noPoint _), List.cons_append]

theorem readSign_append (cs : List Char) :
    readSign (cs ++ rest) = ((readSign cs).1, (readSign cs).2 ++ rest) := by
  rcases sign_cases cs with ⟨more, rfl⟩ | ⟨more, rfl⟩ | ⟨noMinus, noPlus⟩
  · rfl
  · rfl
  · rw [readSign_eq noMinus noPlus, readSign_eq]
    · intro more same
      cases cs with
      | nil => exact apart.ne_cons (by decide) more same
      | cons c cs => exact noMinus cs (by rw [(List.cons.inj same).1])
    · intro more same
      cases cs with
      | nil => exact apart.ne_cons (by decide) more same
      | cons c cs => exact noPlus cs (by rw [(List.cons.inj same).1])

theorem exponentPart_append (cs : List Char) :
    exponentPart (cs ++ rest) = (exponentPart cs).map fun read => (read.1, read.2 ++ rest) := by
  cases cs with
  | nil =>
    cases rest with
    | nil => rfl
    | cons c rest =>
      rw [List.nil_append, exponentPart_cons, if_neg]
      · rfl
      · rintro (rfl | rfl)
        · exact apart.ne_cons (by decide) rest rfl
        · exact apart.ne_cons (by decide) rest rfl
  | cons c cs =>
    rw [List.cons_append, exponentPart_cons, exponentPart_cons, apart.readSign_append,
      apart.takeWhile_append, apart.dropWhile_append]
    repeat' split
    all_goals rfl

theorem readOnward_append (negative : Bool) (whole cs : List Char) :
    readOnward negative whole (cs ++ rest) =
      (readOnward negative whole cs).map fun read => (read.1, read.2 ++ rest) := by
  simp only [readOnward, apart.fractionDigits_append, apart.exponentPart_append,
    Option.map_eq_none_iff]
  split
  · split <;> rfl
  · cases exponentPart (fractionDigits cs).2 <;> rfl

/-- A number is read alike whatever follows it. -/
theorem toOption_readNumber_append (cs : List Char) : (readNumber (cs ++ rest)).toOption =
    (readNumber cs).toOption.map fun read => (read.1, read.2 ++ rest) := by
  have onward (negative : Bool) (cs start start' : List Char) :
      (match wholeDigits (cs ++ rest) with
        | none => failAt .value start
        | some (whole, rest) => readOnward negative whole rest : Except _ _).toOption =
      (match wholeDigits cs with
        | none => failAt .value start'
        | some (whole, rest) => readOnward negative whole rest : Except _ _).toOption.map
          fun read => (read.1, read.2 ++ rest) := by
    rw [apart.wholeDigits_append]
    cases wholeDigits cs with
    | none => rfl
    | some read =>
      simp only [Option.map_some, apart.readOnward_append]
      cases readOnward negative read.1 read.2 <;> rfl
  by_cases minus : ∃ more, cs = '-' :: more
  · obtain ⟨more, rfl⟩ := minus
    rw [List.cons_append, readNumber_minus, readNumber_minus]
    exact onward ..
  · have noMinus (more : List Char) : cs ≠ '-' :: more := fun same => minus ⟨more, same⟩
    rw [readNumber_plain noMinus, readNumber_plain]
    · exact onward ..
    · intro more same
      cases cs with
      | nil => exact apart.ne_cons (by decide) more same
      | cons c cs => exact noMinus cs (by rw [(List.cons.inj same).1])

/-- A word does not go on into what is apart. -/
theorem prefix_append_iff {word cs : List Char} (bare : ∀ c ∈ word, isBare c = true) :
    word <+: cs ++ rest ↔ word <+: cs := by
  refine ⟨fun isFront => ?_, fun isFront => isFront.trans (List.prefix_append cs rest)⟩
  rcases List.prefix_or_prefix_of_prefix isFront (List.prefix_append cs rest) with within | beyond
  · exact within
  · obtain ⟨more, rfl⟩ := beyond
    cases more with
    | nil => simp
    | cons c more =>
      rw [List.prefix_append_right_inj] at isFront
      obtain ⟨after, whole⟩ := isFront
      exact absurd whole.symm (apart.ne_cons (bare c (by simp)) (more ++ after))

theorem afterWord_append {word : List Char} (bare : ∀ c ∈ word, isBare c = true) (cs : List Char) :
    afterWord word (cs ++ rest) = (afterWord word cs).map (· ++ rest) := by
  have same : word.isPrefixOf (cs ++ rest) = word.isPrefixOf cs := by
    rw [Bool.eq_iff_iff, List.isPrefixOf_iff_prefix, List.isPrefixOf_iff_prefix,
      apart.prefix_append_iff bare]
  rw [afterWord, afterWord, same]
  split
  · next isFront =>
    have short := (List.isPrefixOf_iff_prefix.mp isFront).length_le
    rw [Option.map_some, List.drop_append_of_le_length short]
  · rfl

/-- A value without parts is read alike whatever follows it. -/
theorem toOption_readSimple_append (cs : List Char) : (readSimple (cs ++ rest)).toOption =
    (readSimple cs).toOption.map fun read => (read.1, read.2 ++ rest) := by
  have words (l : List (String × Json)) (bare : ∀ w ∈ l, ∀ c ∈ w.1.toList, isBare c = true) :
      (l.findSome? fun w => (afterWord w.1.toList (cs ++ rest)).map fun rest => (w.2, rest)) =
        (l.findSome? fun w => (afterWord w.1.toList cs).map fun rest => (w.2, rest)).map
          fun read => (read.1, read.2 ++ rest) := by
    induction l with
    | nil => rfl
    | cons w l ih =>
      simp only [List.findSome?_cons, apart.afterWord_append (bare w List.mem_cons_self)]
      cases afterWord w.1.toList cs with
      | none => exact ih fun w mem => bare w (List.mem_cons_of_mem _ mem)
      | some after => rfl
  have whole := words wordValues (by decide)
  unfold readSimple
  simp only [whole]
  cases wordValues.findSome? fun w => (afterWord w.1.toList cs).map fun rest => (w.2, rest) with
  | none => exact apart.toOption_readNumber_append cs
  | some read => rfl

end Apart

/-! ## What is read -/

/-- A text without some characters of words and numbers at its front. -/
def Behind (cs rest : List Char) : Prop :=
  ∃ front, cs = front ++ rest ∧ ∀ c ∈ front, isBare c = true

theorem Behind.refl (cs : List Char) : Behind cs cs :=
  ⟨[], rfl, by simp⟩

theorem Behind.trans {cs ds es : List Char} (first : Behind cs ds) (second : Behind ds es) :
    Behind cs es := by
  obtain ⟨front, rfl, frontBare⟩ := first
  obtain ⟨more, rfl, moreBare⟩ := second
  refine ⟨front ++ more, (List.append_assoc ..).symm, ?_⟩
  intro c mem
  exact (List.mem_append.mp mem).elim (frontBare c) (moreBare c)

theorem Behind.cons {c : Char} (bare : isBare c = true) {cs rest : List Char}
    (behind : Behind cs rest) : Behind (c :: cs) rest :=
  Behind.trans ⟨[c], rfl, by simpa using bare⟩ behind

theorem behind_dropWhile_isDigit (cs : List Char) : Behind cs (cs.dropWhile Char.isDigit) := by
  refine ⟨cs.takeWhile Char.isDigit, List.takeWhile_append_dropWhile.symm, ?_⟩
  intro c mem
  exact isBare_of_isDigit (List.all_eq_true.mp List.all_takeWhile c mem)

theorem behind_readSign (cs : List Char) : Behind cs (readSign cs).2 := by
  rcases sign_cases cs with ⟨more, rfl⟩ | ⟨more, rfl⟩ | ⟨noMinus, noPlus⟩
  · exact (Behind.refl more).cons (by decide)
  · exact (Behind.refl more).cons (by decide)
  · rw [readSign_eq noMinus noPlus]
    exact .refl cs

theorem behind_fractionDigits (cs : List Char) : Behind cs (fractionDigits cs).2 := by
  unfold fractionDigits
  split
  · split
    · exact (behind_dropWhile_isDigit _).cons (by decide)
    · exact .refl _
  · exact .refl _

theorem behind_exponentPart {cs rest : List Char} {e : Int}
    (read : exponentPart cs = some (e, rest)) : Behind cs rest := by
  cases cs with
  | nil => simp [exponentPart] at read
  | cons c cs =>
    rw [exponentPart_cons] at read
    split at read
    · next isE =>
      split at read
      · contradiction
      · simp only [Option.some.injEq, Prod.mk.injEq] at read
        rw [← read.2]
        have bare : isBare c = true := by
          rcases isE with rfl | rfl <;> decide
        exact ((behind_readSign cs).trans (behind_dropWhile_isDigit _)).cons bare
    · contradiction

theorem behind_readOnward {negative : Bool} {whole cs rest : List Char} {v : Json}
    (read : readOnward negative whole cs = .ok (v, rest)) : Behind cs rest := by
  have fraction := behind_fractionDigits cs
  unfold readOnward at read
  split at read
  · split at read
    · contradiction
    · cases read
      exact fraction
  · cases found : exponentPart (fractionDigits cs).2 with
    | none =>
      simp only [found, Option.getD_none, Except.ok.injEq, Prod.mk.injEq] at read
      exact read.2 ▸ fraction
    | some exponent =>
      simp only [found, Option.getD_some, Except.ok.injEq, Prod.mk.injEq] at read
      exact fraction.trans (behind_exponentPart (found.trans (by rw [← read.2])))

theorem of_wholeDigits_eq_some {cs whole rest : List Char}
    (read : wholeDigits cs = some (whole, rest)) :
    ∃ c, isBare c = true ∧ ∃ more, cs = c :: more ∧ Behind more rest := by
  unfold wholeDigits at read
  split at read
  · cases read
    exact ⟨'0', by decide, _, rfl, .refl _⟩
  · next c more _ =>
    split at read
    · next digit =>
      cases read
      exact ⟨c, isBare_of_isDigit digit, more, rfl, behind_dropWhile_isDigit more⟩
    · contradiction
  · contradiction

/-- A value without parts has at least one character, and all of its characters are bare. -/
theorem of_readSimple_eq_ok {cs rest : List Char} {v : Json}
    (read : readSimple cs = .ok (v, rest)) :
    ∃ c, isBare c = true ∧ ∃ more, cs = c :: more ∧ Behind more rest := by
  unfold readSimple at read
  split at read
  · next found isFound =>
    cases read
    obtain ⟨⟨word, value⟩, mem, isWord⟩ := List.exists_of_findSome?_eq_some isFound
    have words : ∀ w ∈ wordValues, w.1.toList ≠ [] ∧ ∀ c ∈ w.1.toList, isBare c = true := by decide
    obtain ⟨ne, bare⟩ := words _ mem
    obtain ⟨after, isAfter, whole⟩ := Option.map_eq_some_iff.mp isWord
    cases whole
    unfold afterWord at isAfter
    split at isAfter
    · next isFront =>
      cases isAfter
      obtain ⟨c, letters, isLetters⟩ := List.exists_cons_of_ne_nil ne
      obtain ⟨behind, rfl⟩ := List.isPrefixOf_iff_prefix.mp isFront
      simp only [isLetters] at bare ⊢
      refine ⟨c, bare c List.mem_cons_self, letters ++ behind, rfl, letters, ?_, ?_⟩
      · simp
      · exact fun d mem => bare d (List.mem_cons_of_mem c mem)
    · contradiction
  · by_cases minus : ∃ more, cs = '-' :: more
    · obtain ⟨more, rfl⟩ := minus
      rw [readNumber_minus] at read
      split at read
      · contradiction
      · next whole behind isWhole =>
        obtain ⟨c, bare, digits, rfl, isBehind⟩ := of_wholeDigits_eq_some isWhole
        exact ⟨'-', by decide, _, rfl, (isBehind.trans (behind_readOnward read)).cons bare⟩
    · rw [readNumber_plain fun more same => minus ⟨more, same⟩] at read
      split at read
      · contradiction
      · next whole behind isWhole =>
        obtain ⟨c, bare, digits, rfl, isBehind⟩ := of_wholeDigits_eq_some isWhole
        exact ⟨c, bare, digits, rfl, isBehind.trans (behind_readOnward read)⟩

/-- A value without parts is one by itself, and is read as the same in front of whatever else is
apart from it. -/
theorem exists_simple {cs rest : List Char} {v : Json} (apart : Apart rest)
    (read : readSimple cs = .ok (v, rest)) :
    ∃ c more, cs = c :: more ++ rest ∧ (∀ d ∈ c :: more, isBare d = true) ∧
      ∀ other, Apart other → readSimple (c :: more ++ other) = .ok (v, other) := by
  obtain ⟨c, bare, more, rfl, front, rfl, frontBare⟩ := of_readSimple_eq_ok read
  have alone := apart.toOption_readSimple_append (c :: front)
  rw [List.cons_append, read] at alone
  obtain ⟨⟨value, after⟩, isAlone, whole⟩ := Option.map_eq_some_iff.mp alone.symm
  obtain ⟨rfl, nothing⟩ := Prod.mk.inj whole
  obtain rfl : after = [] := by simpa using nothing
  refine ⟨c, front, rfl, ?_, ?_⟩
  · intro d mem
    rcases List.mem_cons.mp mem with rfl | inFront
    · exact bare
    · exact frontBare d inFront
  · intro other otherApart
    have extended := otherApart.toOption_readSimple_append (c :: front)
    rw [isAlone, Option.map_some] at extended
    cases isRead : readSimple (c :: front ++ other) with
    | error failure =>
      rw [isRead] at extended
      cases extended
    | ok found =>
      rw [isRead] at extended
      exact congrArg Except.ok (Option.some.inj extended)

end FactModel.Json
