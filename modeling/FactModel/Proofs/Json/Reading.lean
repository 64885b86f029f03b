import FactModel.Json.Extract
import FactModel.Proofs.Json.Bodies
import FactModel.Proofs.Json.Simple
import FactModel.Proofs.Text.Keys

/-!
# What is read

The texts that are read as values, whatever the values are.  A text is followed through the reader
as an inductive relation between what is to be read and what remains; the bound on the steps of the
reader does not show in it.
-/

namespace FactModel.Json

open FactModel.Text

/-! ## Steps of the reader -/

/-- What is read behind an element. -/
def elementsOnward (bound : Nat) (value : Json) (rest : List Char) :
    Except ReadFailure (List Json × List Char) :=
  match skipGap rest with
  | ']' :: after => .ok ([value], after)
  | ',' :: after => do
    let (values, rest) ← readElements bound (skipGap after)
    return (value :: values, rest)
  | other => failAt .comma other

/-- A member is read behind the quote of its name. -/
def readMember (bound : Nat) (cs : List Char) :
    Except ReadFailure ((String × Json) × List Char) := do
  let (name, rest) ← readText cs
  match skipGap rest with
  | ':' :: after =>
    let (value, rest) ← readValue bound (skipGap after)
    return ((name, value), rest)
  | other => failAt .colon other

/-- What is read behind a member. -/
def membersOnward (bound : Nat) (members : List (String × Json)) (rest : List Char) :
    Except ReadFailure (List (String × Json) × List Char) :=
  match skipGap rest with
  | '\x7d' :: after => .ok (members, after)
  | ',' :: after => readMembers bound members (skipGap after)
  | other => failAt .comma other

theorem readElements_succ (bound : Nat) (cs : List Char) : readElements (bound + 1) cs =
    readValue bound cs >>= fun read => elementsOnward bound read.1 read.2 := by
  rw [readElements]
  rfl

theorem readMembers_text (bound : Nat) (known : List (String × Json)) (cs : List Char) :
    readMembers (bound + 1) known ('"' :: cs) = readMember bound cs >>= fun read =>
      membersOnward bound (Keyed.put read.1.1 read.1.2 known) read.2 := by
  rw [readMembers, readMember, bind_assoc]
  refine bind_congr fun read => ?_
  simp only
  cases skipGap read.2 with
  | nil => rfl
  | cons c ds =>
    by_cases isColon : c = ':'
    · subst isColon
      simp only [bind_assoc]
      rfl
    · simp [isColon, failAt, bind, Except.bind]

/-- A member is a text in quotes, a colon and a value. -/
theorem of_readMember_eq_ok {bound : Nat} {cs rest : List Char} {name : String} {value : Json}
    (read : readMember bound cs = .ok ((name, value), rest)) :
    ∃ t named written, Body t ∧ cs = t ++ '"' :: named ∧ skipGap named = ':' :: written ∧
      readValue bound (skipGap written) = .ok (value, rest) := by
  obtain ⟨⟨name', named⟩, text, more⟩ := of_bind_eq_ok read
  obtain ⟨t, body, rfl⟩ := exists_body_of_readText text
  simp only at more
  split at more
  · next written colon =>
    obtain ⟨⟨value', rest'⟩, first, same⟩ := of_bind_eq_ok more
    cases same
    exact ⟨t, named, written, body, rfl, colon, first⟩
  · contradiction

/-! ## What is read -/

/-- What is read as one: a value, or the elements or members up to the end of an array or object. -/
inductive Part where
  | value
  | elements
  | members

/-- A value, elements or members are read at the front of a text, and something remains. -/
inductive Reads : Part → List Char → List Char → Prop where
  | text {t rest : List Char} (body : Body t) : Reads .value ('"' :: (t ++ '"' :: rest)) rest
  | simple {c : Char} {more rest : List Char} {v : Json}
      (bare : ∀ d ∈ c :: more, isBare d = true) (apart : Apart rest)
      (read : ∀ other, Apart other → readSimple (c :: more ++ other) = .ok (v, other)) :
    Reads .value (c :: more ++ rest) rest
  | noElements {cs rest : List Char} (closes : skipGap cs = ']' :: rest) :
    Reads .value ('[' :: cs) rest
  | array {cs rest : List Char} (goesOn : ∀ after, skipGap cs ≠ ']' :: after)
      (elements : Reads .elements (skipGap cs) rest) : Reads .value ('[' :: cs) rest
  | noMembers {cs rest : List Char} (closes : skipGap cs = '}' :: rest) :
    Reads .value ('{' :: cs) rest
  | object {cs rest : List Char} (goesOn : ∀ after, skipGap cs ≠ '}' :: after)
      (members : Reads .members (skipGap cs) rest) : Reads .value ('{' :: cs) rest
  | lastElement {cs behind rest : List Char} (value : Reads .value cs behind)
      (closes : skipGap behind = ']' :: rest) : Reads .elements cs rest
  | nextElement {cs behind next rest : List Char} (value : Reads .value cs behind)
      (comma : skipGap behind = ',' :: next) (later : Reads .elements (skipGap next) rest) :
    Reads .elements cs rest
  | lastMember {t named written behind rest : List Char} (name : Body t)
      (colon : skipGap named = ':' :: written) (value : Reads .value (skipGap written) behind)
      (closes : skipGap behind = '}' :: rest) : Reads .members ('"' :: (t ++ '"' :: named)) rest
  | nextMember {t named written behind next rest : List Char} (name : Body t)
      (colon : skipGap named = ':' :: written) (value : Reads .value (skipGap written) behind)
      (comma : skipGap behind = ',' :: next) (later : Reads .members (skipGap next) rest) :
    Reads .members ('"' :: (t ++ '"' :: named)) rest

/-- What stands behind some blanks is apart from what stands in front of them. -/
theorem Apart.of_skipGap {cs : List Char} (apart : Apart (skipGap cs)) : Apart cs := by
  cases cs with
  | nil => exact nofun
  | cons c cs =>
    intro x isHead
    cases isHead
    by_cases gap : isGap c = true
    · have isBlank : c = ' ' ∨ c = '\t' ∨ c = '\n' ∨ c = '\r' := by
        simpa [isGap, or_assoc] using gap
      rcases isBlank with rfl | rfl | rfl | rfl <;> decide
    · rw [skipGap, List.dropWhile_cons_of_neg gap] at apart
      exact apart c rfl

theorem apart_of_skipGap_eq_cons {cs rest : List Char} {c : Char} (mark : isBare c = false)
    (next : skipGap cs = c :: rest) : Apart cs := by
  refine .of_skipGap ?_
  rw [next]
  intro x isHead
  cases isHead
  exact mark

theorem apart_of_skipGap_eq_nil {cs : List Char} (gaps : skipGap cs = []) : Apart cs :=
  .of_skipGap (gaps ▸ nofun)

/-- What the reader reads. -/
theorem reads_of_read (bound : Nat) :
    (∀ cs v rest, Apart rest → readValue bound cs = .ok (v, rest) → Reads .value cs rest) ∧
      (∀ cs vs rest, readElements bound cs = .ok (vs, rest) → Reads .elements cs rest) ∧
      ∀ known cs ms rest, readMembers bound known cs = .ok (ms, rest) →
        Reads .members cs rest := by
  induction bound with
  | zero => exact ⟨nofun, nofun, nofun⟩
  | succ bound ih =>
    obtain ⟨values, elements, members⟩ := ih
    refine ⟨?_, ?_, ?_⟩
    · intro cs v rest apart read
      unfold readValue at read
      split at read
      · obtain ⟨⟨content, behind⟩, text, read⟩ := of_bind_eq_ok read
        cases read
        obtain ⟨t, body, rfl⟩ := exists_body_of_readText text
        exact .text body
      · split at read
        · next closes =>
          cases read
          exact .noElements closes
        · next goesOn =>
          obtain ⟨⟨vs, behind⟩, more, read⟩ := of_bind_eq_ok read
          cases read
          exact .array goesOn (elements _ _ _ more)
      · split at read
        · next closes =>
          cases read
          exact .noMembers closes
        · next goesOn =>
          obtain ⟨⟨ms, behind⟩, more, read⟩ := of_bind_eq_ok read
          cases read
          exact .object goesOn (members _ _ _ _ more)
      · obtain ⟨c, more, rfl, bare, alike⟩ := exists_simple apart read
        exact .simple bare apart alike
    · intro cs vs rest read
      rw [readElements_succ] at read
      obtain ⟨⟨value, behind⟩, first, onward⟩ := of_bind_eq_ok read
      unfold elementsOnward at onward
      split at onward
      · next closes =>
        cases onward
        exact .lastElement (values _ _ _ (apart_of_skipGap_eq_cons (by decide) closes) first) closes
      · next comma =>
        obtain ⟨⟨more, after⟩, later, read⟩ := of_bind_eq_ok onward
        cases read
        exact .nextElement (values _ _ _ (apart_of_skipGap_eq_cons (by decide) comma) first) comma
          (elements _ _ _ later)
      · contradiction
    · intro known cs ms rest read
      obtain ⟨more, rfl⟩ : ∃ more, cs = '"' :: more := by
        unfold readMembers at read
        split at read
        · exact ⟨_, rfl⟩
        · contradiction
      rw [readMembers_text] at read
      obtain ⟨⟨⟨name, value⟩, behind⟩, member, onward⟩ := of_bind_eq_ok read
      obtain ⟨t, named, written, body, rfl, colon, first⟩ := of_readMember_eq_ok member
      unfold membersOnward at onward
      split at onward
      · next closes =>
        cases onward
        exact .lastMember body colon
          (values _ _ _ (apart_of_skipGap_eq_cons (by decide) closes) first) closes
      · next comma =>
        exact .nextMember body colon
          (values _ _ _ (apart_of_skipGap_eq_cons (by decide) comma) first) comma
          (members _ _ _ _ onward)
      · contradiction

/-! ## Characters that are read -/

theorem isBlank_of_isGap {c : Char} (gap : isGap c = true) : isBlank c = true := by
  have isBlank : c = ' ' ∨ c = '\t' ∨ c = '\n' ∨ c = '\r' := by
    simpa [isGap, or_assoc] using gap
  rcases isBlank with rfl | rfl | rfl | rfl <;> decide

theorem not_isBlank_of_isBare {c : Char} (bare : isBare c = true) : isBlank c = false := by
  have cases : ((c.isAlphanum = true ∨ c = '+') ∨ c = '-') ∨ c = '.' := by
    simpa [isBare] using bare
  rcases cases with ((letter | rfl) | rfl) | rfl
  · have bounds := bounds_of_isAlphanum letter
    exact isBlank_eq_false_of_toNat (by omega) (by omega)
  all_goals decide

/-- Whether a text begins, blanks aside, with a closing bracket. -/
def Closes (cs : List Char) : Prop :=
  (cs.dropWhile isBlank).head? = some '\x7d' ∨ (cs.dropWhile isBlank).head? = some ']'

/-- What is read begins with a character that is neither blank nor a closing bracket. -/
theorem Reads.exists_cons {part : Part} {cs rest : List Char} (reads : Reads part cs rest) :
    ∃ c more, cs = c :: more ∧ isBlank c = false ∧ c ≠ '}' ∧ c ≠ ']' := by
  induction reads with
  | text => exact ⟨'"', _, rfl, by decide⟩
  | @simple c more rest v bare =>
    have cBare := bare c List.mem_cons_self
    refine ⟨c, more ++ rest, rfl, not_isBlank_of_isBare cBare, ?_, ?_⟩
    · rintro rfl
      contradiction
    · rintro rfl
      contradiction
  | noElements | array => exact ⟨'[', _, rfl, by decide⟩
  | noMembers | object => exact ⟨'{', _, rfl, by decide⟩
  | lastElement _ _ ih | nextElement _ _ _ ih => exact ih
  | lastMember | nextMember => exact ⟨'"', _, rfl, by decide⟩

theorem dropWhile_isBlank_skipGap (cs : List Char) :
    (skipGap cs).dropWhile isBlank = cs.dropWhile isBlank := by
  have gaps : ∀ d ∈ cs.takeWhile isGap, isBlank d = true := fun d mem =>
    isBlank_of_isGap (List.all_eq_true.mp List.all_takeWhile d mem)
  conv_rhs => rw [← List.takeWhile_append_dropWhile (p := isGap) (l := cs)]
  rw [List.dropWhile_append_of_pos gaps, skipGap]

/-- The comma in front of what is read stays when commas in front of closing brackets are left
out. -/
theorem Reads.not_closes {part : Part} {cs rest : List Char}
    (reads : Reads part (skipGap cs) rest) : ¬Closes cs := by
  obtain ⟨c, more, front, solid, notBrace, notBracket⟩ := reads.exists_cons
  have same : cs.dropWhile isBlank = c :: more := by
    rw [← dropWhile_isBlank_skipGap, front, List.dropWhile_cons_of_neg (by simp [solid])]
  rw [Closes, same]
  simp [notBrace, notBracket]

/-- A text that falls into texts between double quotes and other characters.  Outside of the texts
there are no single quotes, and no comma stands in front of a closing bracket. -/
inductive Lexed : List Char → Prop where
  | nil : Lexed []
  | plain {c : Char} {cs : List Char} (double : c ≠ '"') (single : c ≠ '\'')
      (comma : c = ',' → ¬Closes cs) (rest : Lexed cs) : Lexed (c :: cs)
  | text {t cs : List Char} (body : Body t) (rest : Lexed cs) : Lexed ('"' :: (t ++ '"' :: cs))

theorem Lexed.append {front cs : List Char} (plain : ∀ c ∈ front, c ≠ '"' ∧ c ≠ '\'' ∧ c ≠ ',')
    (rest : Lexed cs) : Lexed (front ++ cs) := by
  induction front with
  | nil => exact rest
  | cons c front ih =>
    obtain ⟨double, single, comma⟩ := plain c List.mem_cons_self
    refine .plain double single (absurd · comma) (ih ?_)
    exact fun d mem => plain d (List.mem_cons_of_mem c mem)

theorem Lexed.of_skipGap {cs : List Char} (rest : Lexed (skipGap cs)) : Lexed cs := by
  rw [← List.takeWhile_append_dropWhile (p := isGap) (l := cs)]
  refine rest.append ?_
  intro c mem
  have gap := List.all_eq_true.mp List.all_takeWhile c mem
  refine ⟨?_, ?_, ?_⟩ <;> rintro rfl <;> contradiction

theorem Lexed.of_skipGap_eq {cs rest : List Char} (next : skipGap cs = rest) (lexed : Lexed rest) :
    Lexed cs :=
  .of_skipGap (next ▸ lexed)

theorem Lexed.mark {c : Char} {cs : List Char} (mark : c ≠ '"' ∧ c ≠ '\'' ∧ c ≠ ',')
    (rest : Lexed cs) : Lexed (c :: cs) :=
  .plain mark.1 mark.2.1 (absurd · mark.2.2) rest

theorem Lexed.comma {cs : List Char} (stays : ¬Closes cs) (rest : Lexed cs) : Lexed (',' :: cs) :=
  .plain (by decide) (by decide) (fun _ => stays) rest

/-- What is read falls into texts and other characters. -/
theorem Reads.lexed {part : Part} {cs rest : List Char} (reads : Reads part cs rest)
    (lexed : Lexed rest) : Lexed cs := by
  induction reads with
  | text body => exact .text body lexed
  | simple bare =>
    refine lexed.append ?_
    intro c mem
    have cBare := bare c mem
    refine ⟨?_, ?_, ?_⟩ <;> rintro rfl <;> contradiction
  | noElements closes | noMembers closes =>
    exact .mark (by decide) (.of_skipGap_eq closes (.mark (by decide) lexed))
  | array _ _ ih | object _ _ ih => exact .mark (by decide) (.of_skipGap (ih lexed))
  | lastElement _ closes ih => exact ih (.of_skipGap_eq closes (.mark (by decide) lexed))
  | nextElement _ comma later ih ihLater =>
    exact ih (.of_skipGap_eq comma (.comma later.not_closes (.of_skipGap (ihLater lexed))))
  | lastMember name colon _ closes ih =>
    have value := ih (.of_skipGap_eq closes (.mark (by decide) lexed))
    exact .text name (.of_skipGap_eq colon (.mark (by decide) (.of_skipGap value)))
  | nextMember name colon _ comma later ih ihLater =>
    have value := ih (.of_skipGap_eq comma (.comma later.not_closes (.of_skipGap (ihLater lexed))))
    exact .text name (.of_skipGap_eq colon (.mark (by decide) (.of_skipGap value)))

end FactModel.Json
