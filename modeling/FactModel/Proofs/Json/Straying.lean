import FactModel.Proofs.Json.Mending

/-!
# Reading a damaged text

A text that is read as an object is no longer read when it is damaged, whether it is mended or not:
the reader takes the same steps as before up to the place where the damaged text strays, and there it
finds a fault.
-/

namespace FactModel.Json

open FactModel.Text

/-- A reading that fails or ends in front of a text with a property. -/
def EndsIn {α : Type} (P : List Char → Prop) (read : Except ReadFailure (α × List Char)) : Prop :=
  Fails read ∨ ∃ a rest, read = .ok (a, rest) ∧ P rest

theorem EndsIn.bind {α β : Type} {P Q : List Char → Prop}
    {read : Except ReadFailure (α × List Char)} (ends : EndsIn P read)
    {next : α × List Char → Except ReadFailure (β × List Char)}
    (later : ∀ a rest, P rest → EndsIn Q (next (a, rest))) : EndsIn Q (read >>= next) := by
  rcases ends with fails | ⟨a, rest, rfl, holds⟩
  · exact .inl (fails.bind next)
  · exact later a rest holds

theorem EndsIn.ok {α : Type} {P : List Char → Prop} {rest : List Char} (holds : P rest) (a : α) :
    EndsIn P (.ok (a, rest)) :=
  .inr ⟨a, rest, rfl, holds⟩

/-- However many steps it may take, the reader of a part fails or ends in front of a text with a
property. -/
def Part.EndsIn (P : List Char → Prop) (cs : List Char) : Part → Prop
  | .value => ∀ bound, Json.EndsIn P (readValue bound cs)
  | .elements => ∀ bound, Json.EndsIn P (readElements bound cs)
  | .members => ∀ bound known, Json.EndsIn P (readMembers bound known cs)

namespace Part

variable {P : List Char → Prop} {cs : List Char}

theorem endsIn_value (ends : ∀ bound, Json.EndsIn P (readValue (bound + 1) cs)) :
    value.EndsIn P cs
  | 0 => .inl (fails_failAt _ _)
  | bound + 1 => ends bound

theorem endsIn_elements (ends : ∀ bound, Json.EndsIn P (readElements (bound + 1) cs)) :
    elements.EndsIn P cs
  | 0 => .inl (fails_failAt _ _)
  | bound + 1 => ends bound

theorem endsIn_members
    (ends : ∀ bound known, Json.EndsIn P (readMembers (bound + 1) known cs)) : members.EndsIn P cs
  | 0, _ => .inl (fails_failAt _ _)
  | bound + 1, known => ends bound known

end Part

/-- Where the first text goes on the second does not go on in the same way. -/
def Off (cs ds : List Char) : Prop :=
  if skipGap cs = [] then skipGap ds ≠ [] else ∀ c ∈ (skipGap ds).head?, isWord c = true

/-- The second text is worn, or does not go on as the first. -/
def Strays (cs ds : List Char) : Prop :=
  Worn Burst cs ds ∨ Off cs ds

theorem Off.of_isWord {c : Char} (word : isWord c = true) (cs ds : List Char) :
    Off cs (c :: ds) := by
  have solid : ¬isGap c = true := by
    intro gap
    have isBlank : c = ' ' ∨ c = '\t' ∨ c = '\n' ∨ c = '\r' := by
      simpa [isGap, or_assoc] using gap
    rcases isBlank with rfl | rfl | rfl | rfl <;> revert word <;> decide
  have same : skipGap (c :: ds) = c :: ds := List.dropWhile_cons_of_neg solid
  unfold Off
  rw [same]
  split
  · simp
  · intro d isHead
    cases isHead
    exact word

theorem skipGap_ne_nil_iff {cs : List Char} : skipGap cs ≠ [] ↔ Filled cs := by
  rw [skipGap, Ne, List.dropWhile_eq_nil_iff]
  simp [Filled]

/-- A text in quotes ends at one place only. -/
theorem Body.rest_unique {s t cs ds : List Char} (sBody : Body s) (tBody : Body t)
    (same : s ++ '"' :: cs = t ++ '"' :: ds) : cs = ds := by
  obtain ⟨a, read⟩ := exists_readText sBody cs
  obtain ⟨b, reread⟩ := exists_readText tBody ds
  rw [← same, read] at reread
  exact (Prod.mk.inj (Except.ok.inj reread)).2

/-- A text in quotes that is worn is read to its end, or does not go on behind it, or has none. -/
theorem Worn.readText {t cs ds : List Char} (body : Body t)
    (worn : Worn Burst ('"' :: (t ++ '"' :: cs)) ds) :
    ∃ more, ds = '"' :: more ∧ EndsIn (Strays cs) (readText more) := by
  generalize isText : '"' :: (t ++ '"' :: cs) = ts at worn
  cases worn with
  | plain double => exact absurd (List.cons.inj isText).1.symm double
  | @text s' t' cs' ds' body' changed rest =>
    obtain rfl := body.rest_unique body' (List.cons.inj isText).2
    obtain ⟨a, read⟩ := exists_readText changed ds'
    exact ⟨_, rfl, .inr ⟨a, ds', read, .inl rest⟩⟩
  | torn torn =>
    refine ⟨_, rfl, ?_⟩
    rcases torn with endless | ⟨s, c, more, sBody, word, rfl⟩
    · exact .inl (fails_readText endless)
    · obtain ⟨a, read⟩ := exists_readText sBody (c :: more)
      exact .inr ⟨a, c :: more, read, .inr (.of_isWord word cs more)⟩
  | cut | longer => exact absurd (List.cons.inj isText).1 (by decide)

/-- A worn text goes on in the same way up to the next character outside of texts in quotes. -/
theorem Worn.of_cons {c : Char} {cs ds : List Char} (worn : Worn Burst (c :: cs) ds)
    (double : c ≠ '"') : ∃ more, ds = c :: more ∧ Strays cs more := by
  cases worn with
  | plain _ _ _ rest => exact ⟨_, rfl, .inl rest⟩
  | text | torn => contradiction
  | @cut cs more =>
    refine ⟨[], rfl, .inr ?_⟩
    rw [Off, if_neg (skipGap_ne_nil_iff.mpr more)]
    exact nofun
  | @longer ds more =>
    refine ⟨ds, rfl, .inr ?_⟩
    rw [Off, if_pos (by rfl)]
    exact skipGap_ne_nil_iff.mpr more

/-- Up to a character that ends no object the text stays worn. -/
theorem Worn.of_cons_inside {c : Char} {cs ds : List Char} (worn : Worn Burst (c :: cs) ds)
    (double : c ≠ '"') (brace : c ≠ '}') : ∃ more, ds = c :: more ∧ Worn Burst cs more := by
  cases worn with
  | plain _ _ _ rest => exact ⟨_, rfl, rest⟩
  | text | torn | cut | longer => contradiction

theorem Worn.of_append {front cs ds : List Char} (worn : Worn Burst (front ++ cs) ds)
    (bare : ∀ c ∈ front, isBare c = true) : ∃ more, ds = front ++ more ∧ Worn Burst cs more := by
  induction front generalizing ds with
  | nil => exact ⟨ds, rfl, worn⟩
  | cons c front ih =>
    have cBare := bare c List.mem_cons_self
    obtain ⟨more, rfl, rest⟩ : ∃ more, ds = c :: more ∧ Worn Burst (front ++ cs) more := by
      refine worn.of_cons_inside ?_ ?_ <;> rintro rfl <;> contradiction
    obtain ⟨more, rfl, later⟩ := ih rest fun d mem => bare d (List.mem_cons_of_mem c mem)
    exact ⟨more, rfl, later⟩

/-- Where a text strays it goes on with the same mark or with none. -/
theorem Strays.cases_mark {cs ds rest : List Char} {c : Char} (strays : Strays cs ds)
    (mark : skipGap cs = c :: rest) :
    Worn Burst (c :: rest) (skipGap ds) ∨
      ∀ d, isWord d = false → ∀ rest, skipGap ds ≠ d :: rest := by
  rcases strays with worn | off
  · exact .inl (mark ▸ worn.skipGap)
  · right
    rw [Off, mark, if_neg (by simp)] at off
    intro d notWord rest same
    have word := off d (by rw [same]; rfl)
    rw [notWord] at word
    contradiction

theorem fails_elementsOnward {ds : List Char}
    (stray : ∀ d, isWord d = false → ∀ rest, skipGap ds ≠ d :: rest) (bound : Nat) (v : Json) :
    Fails (elementsOnward bound v ds) := by
  unfold elementsOnward
  split
  · next closes => exact absurd closes (stray _ (by decide) _)
  · next comma => exact absurd comma (stray _ (by decide) _)
  · exact fails_failAt _ _

theorem fails_membersOnward {ds : List Char}
    (stray : ∀ d, isWord d = false → ∀ rest, skipGap ds ≠ d :: rest) (bound : Nat)
    (ms : List (String × Json)) : Fails (membersOnward bound ms ds) := by
  unfold membersOnward
  split
  · next closes => exact absurd closes (stray _ (by decide) _)
  · next comma => exact absurd comma (stray _ (by decide) _)
  · exact fails_failAt _ _

/-- A damaged member is not read, or is read up to where the text strays, if its value is. -/
theorem Worn.readMember {t named written behind ds : List Char} (name : Body t)
    (colon : Json.skipGap named = ':' :: written)
    (value : ∀ ds, Worn Burst (Json.skipGap written) ds → Part.value.EndsIn (Strays behind) ds)
    (worn : Worn Burst ('"' :: (t ++ '"' :: named)) ds) :
    ∃ more, ds = '"' :: more ∧ ∀ bound, EndsIn (Strays behind) (readMember bound more) := by
  obtain ⟨more, rfl, ends⟩ := worn.readText name
  refine ⟨more, rfl, fun bound => ends.bind fun s after strays => ?_⟩
  simp only
  rcases strays.cases_mark colon with same | stray
  · obtain ⟨more, isColon, inner⟩ := same.of_cons_inside (by decide) (by decide)
    rw [isColon]
    exact (value _ inner.skipGap bound).bind fun _ _ strays => .ok strays _
  · split
    · next colon => exact absurd colon (stray _ (by decide) _)
    · exact .inl (fails_failAt _ _)

theorem readValue_of_isBare {c : Char} (bare : isBare c = true) (bound : Nat) (cs : List Char) :
    readValue (bound + 1) (c :: cs) = readSimple (c :: cs) := by
  rw [readValue]
  all_goals
    rintro rest same
    obtain ⟨rfl, -⟩ := List.cons.inj same
    contradiction

/-- A damaged value, array or object is not read, or is read up to where the text strays. -/
theorem Reads.strays {part : Part} {cs rest : List Char} (reads : Reads part cs rest)
    {ds : List Char} (worn : Worn Burst cs ds) : part.EndsIn (Strays rest) ds := by
  induction reads generalizing ds with
  | text body =>
    refine Part.endsIn_value fun bound => ?_
    obtain ⟨more, rfl, ends⟩ := worn.readText body
    exact ends.bind fun _ _ strays => .ok strays _
  | @simple c more rest v bare apart read =>
    refine Part.endsIn_value fun bound => ?_
    obtain ⟨after, rfl, restWorn⟩ := worn.of_append bare
    have afterApart : Apart after := fun d isHead => apart d (restWorn.head?_eq ▸ isHead)
    rw [List.cons_append, readValue_of_isBare (bare c List.mem_cons_self), ← List.cons_append,
      read after afterApart]
    exact .ok (.inl restWorn) v
  | noElements closes | noMembers closes =>
    refine Part.endsIn_value fun bound => ?_
    obtain ⟨more, rfl, inner⟩ := worn.of_cons_inside (by decide) (by decide)
    have closed := inner.skipGap
    rw [closes] at closed
    obtain ⟨after, isClosed, strays⟩ := closed.of_cons (by decide)
    rw [readValue, isClosed]
    exact .ok strays _
  | array goesOn elements ih =>
    refine Part.endsIn_value fun bound => ?_
    obtain ⟨more, rfl, inner⟩ := worn.of_cons_inside (by decide) (by decide)
    rw [readValue]
    split
    · next closes => exact absurd closes (inner.skipGap.ne_cons goesOn _)
    · exact (ih inner.skipGap bound).bind fun _ _ strays => .ok strays _
  | object goesOn members ih =>
    refine Part.endsIn_value fun bound => ?_
    obtain ⟨more, rfl, inner⟩ := worn.of_cons_inside (by decide) (by decide)
    rw [readValue]
    split
    · next closes => exact absurd closes (inner.skipGap.ne_cons goesOn _)
    · exact (ih inner.skipGap bound []).bind fun _ _ strays => .ok strays _
  | lastElement value closes ih =>
    refine Part.endsIn_elements fun bound => ?_
    rw [readElements_succ]
    refine (ih worn bound).bind fun v after strays => ?_
    rcases strays.cases_mark closes with same | stray
    · obtain ⟨more, isClosed, strays⟩ := same.of_cons (by decide)
      simp only [elementsOnward, isClosed]
      exact .ok strays _
    · exact .inl (fails_elementsOnward stray bound v)
  | nextElement value comma later ih ihLater =>
    refine Part.endsIn_elements fun bound => ?_
    rw [readElements_succ]
    refine (ih worn bound).bind fun v after strays => ?_
    rcases strays.cases_mark comma with same | stray
    · obtain ⟨more, isComma, inner⟩ := same.of_cons_inside (by decide) (by decide)
      simp only [elementsOnward, isComma]
      exact (ihLater inner.skipGap bound).bind fun _ _ strays => .ok strays _
    · exact .inl (fails_elementsOnward stray bound v)
  | lastMember name colon value closes ih =>
    refine Part.endsIn_members fun bound known => ?_
    obtain ⟨more, rfl, member⟩ := worn.readMember name colon fun _ worn => ih worn
    rw [readMembers_text]
    refine (member bound).bind fun m after strays => ?_
    rcases strays.cases_mark closes with same | stray
    · obtain ⟨more, isClosed, strays⟩ := same.of_cons (by decide)
      simp only [membersOnward, isClosed]
      exact .ok strays _
    · exact .inl (fails_membersOnward stray bound _)
  | nextMember name colon value comma later ih ihLater =>
    refine Part.endsIn_members fun bound known => ?_
    obtain ⟨more, rfl, member⟩ := worn.readMember name colon fun _ worn => ih worn
    rw [readMembers_text]
    refine (member bound).bind fun m after strays => ?_
    rcases strays.cases_mark comma with same | stray
    · obtain ⟨more, isComma, inner⟩ := same.of_cons_inside (by decide) (by decide)
      simp only [membersOnward, isComma]
      exact ihLater inner.skipGap bound _
    · exact .inl (fails_membersOnward stray bound _)

/-! ## What is cut off and what goes on -/

theorem Worn.burst {cs ds : List Char} (worn : Worn Body cs ds) : Worn Burst cs ds :=
  worn.quoteNames 0

theorem getLast?_behind_text {t cs : List Char}
    (ends : ('"' :: (t ++ '"' :: cs)).getLast? = some '}') : cs.getLast? = some '}' := by
  cases cs with
  | nil => simp [List.getLast?_cons] at ends
  | cons e cs =>
    have whole : '"' :: (t ++ '"' :: e :: cs) = '"' :: t ++ ['"'] ++ e :: cs := by simp
    rwa [whole, List.getLast?_append, Option.or_of_isSome (by simp)] at ends

/-- A text is damaged when it is cut off behind a brace. -/
theorem Lexed.worn_front {cs rest : List Char} (lexed : Lexed (cs ++ rest))
    (ends : cs.getLast? = some '}') (more : Filled rest) : Worn Body (cs ++ rest) cs := by
  generalize whole : cs ++ rest = ds at lexed
  induction lexed generalizing cs with
  | nil => simp_all
  | @plain c ds double single comma lexed ih =>
    cases cs with
    | nil => contradiction
    | cons d cs =>
      obtain ⟨rfl, rfl⟩ := List.cons.inj whole
      cases cs with
      | nil =>
        cases ends
        exact .cut more
      | cons e cs => exact .plain double single comma (ih (by simpa using ends) rfl)
  | @text t ds body lexed ih =>
    cases cs with
    | nil => contradiction
    | cons d cs =>
      obtain ⟨rfl, tail⟩ := List.cons.inj whole
      rcases List.append_eq_append_iff.mp tail with ⟨behind, rfl, -⟩ | ⟨behind, rfl, later⟩
      · cases cs with
        | nil => contradiction
        | cons e cs => exact .torn (body.of_append (by simpa using ends) (by decide))
      · cases behind with
        | nil =>
          rw [List.append_nil]
          exact .torn body
        | cons e behind =>
          obtain ⟨rfl, rfl⟩ := List.cons.inj later
          exact .text body body (ih (getLast?_behind_text ends) rfl)

theorem Lexed.worn_append {cs rest : List Char} (lexed : Lexed cs)
    (ends : cs.getLast? = some '}') (more : Filled rest) : Worn Body cs (cs ++ rest) := by
  induction lexed with
  | nil => contradiction
  | @plain c cs double single comma lexed ih =>
    cases cs with
    | nil =>
      cases ends
      exact .longer more
    | cons e cs => exact .plain double single comma (ih (by simpa using ends))
  | @text t cs body lexed ih =>
    rw [List.cons_append, List.append_assoc, List.cons_append]
    exact .text body body (ih (getLast?_behind_text ends))

/-- A text that is read as an object, from its opening to its closing brace. -/
structure Written (cs : List Char) (members : List (String × Json)) : Prop where
  opens : cs.head? = some '{'
  ends : cs.getLast? = some '}'
  read : read cs = .ok (.object members)

namespace Written

variable {cs : List Char} {members : List (String × Json)} (written : Written cs members)

include written

theorem exists_cons : ∃ more, cs = '{' :: more :=
  List.head?_eq_some_iff.mp written.opens

theorem exists_reads : ∃ rest, skipGap rest = [] ∧ Reads .value cs rest := by
  obtain ⟨more, rfl⟩ := written.exists_cons
  have read := written.read
  rw [Json.read, if_neg (by simp)] at read
  obtain ⟨⟨v, rest⟩, value, onward⟩ := of_bind_eq_ok read
  simp only at onward
  split at onward
  · next gaps => exact ⟨rest, gaps, (reads_of_read _).1 _ _ _ (apart_of_skipGap_eq_nil gaps) value⟩
  · contradiction

theorem lexed : Lexed cs := by
  obtain ⟨rest, gaps, reads⟩ := written.exists_reads
  exact reads.lexed (.of_skipGap_eq gaps .nil)

/-- When the text is damaged it is not read. -/
theorem fails_of_worn {ds : List Char} (worn : Worn Burst cs ds) : Fails (Json.read ds) := by
  obtain ⟨rest, gaps, reads⟩ := written.exists_reads
  obtain ⟨more, rfl⟩ := written.exists_cons
  obtain ⟨more', rfl, -⟩ := worn.of_cons_inside (by decide) (by decide)
  rw [Json.read, if_neg (by simp)]
  have solid : skipGap ('{' :: more') = '{' :: more' := rfl
  rw [solid]
  rcases reads.strays worn (2 * ('{' :: more').length + 2) with fails | ⟨v, after, value, strays⟩
  · exact fails.bind _
  · rw [value]
    have filled : skipGap after ≠ [] := by
      rcases strays with worn | off
      · have impossible := worn.skipGap
        rw [gaps] at impossible
        cases impossible
      · rwa [Off, if_pos gaps] at off
    obtain ⟨c, extra, isExtra⟩ := List.exists_cons_of_ne_nil filled
    simp only [bind, Except.bind, isExtra]
    exact fails_failAt _ _

theorem fails_of_mended {ds : List Char} (worn : Worn Body cs ds) : Fails (Json.read (mend ds)) :=
  written.fails_of_worn (worn.dropCommas.quoteNames _)

/-- A damaged text holds no object, whether it is mended or not. -/
theorem exists_failed {ds : List Char} (worn : Worn Body cs ds) (place : Place) :
    ∃ reports, attempt place ds = .ok (.failed reports) := by
  obtain ⟨fault, remaining, fails⟩ := written.fails_of_worn worn.burst
  obtain ⟨fault', remaining', mended⟩ := written.fails_of_mended worn
  simp only [attempt, fails, mended]
  exact ⟨_, rfl⟩

end Written

end FactModel.Json
