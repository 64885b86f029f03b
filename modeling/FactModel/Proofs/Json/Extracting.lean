import FactModel.Proofs.Json.Candidates
import FactModel.Proofs.Json.Straying
import FactModel.Proofs.Text.Tidy
import Mathlib

/-!
# What is extracted

An object that stands in a text, or in a fence in a text, is extracted when a candidate is the whole
of it.  A candidate that is cut off holds nothing, and neither does a text that begins with something
else.
-/

namespace FactModel.Json

open FactModel.Text

/-! ## The search -/

theorem firstObject_found {reports : List String} {place : Place} {cs : List Char}
    {ms : List (String × Json)} (found : attempt place cs = .ok (.found ms))
    (rest : List (Place × List Char)) :
    firstObject reports ((place, cs) :: rest) = .ok (.object ms) := by
  rw [firstObject, found]

theorem firstObject_failed {reports more : List String} {place : Place} {cs : List Char}
    (failed : attempt place cs = .ok (.failed more)) (rest : List (Place × List Char)) :
    firstObject reports ((place, cs) :: rest) = firstObject (reports ++ more) rest := by
  rw [firstObject, failed]

/-- Of one candidate nothing else is found than what it holds. -/
theorem firstObject_singleton_iff {reports : List String} {place : Place} {cs : List Char}
    {v : Json} : firstObject reports [(place, cs)] = .ok v ↔
      ∃ ms, attempt place cs = .ok (.found ms) ∧ v = .object ms := by
  rw [firstObject]
  cases attempt place cs with
  | error error => simp
  | ok outcome =>
    cases outcome with
    | found ms => simp [eq_comm]
    | failed more => simp [firstObject]

theorem Written.attempt {cs : List Char} {ms : List (String × Json)} (written : Written cs ms)
    (place : Place) : attempt place cs = .ok (.found ms) := by
  simp only [Json.attempt, written.read]

/-! ## Texts that do not begin with an object -/

/-- Whether a text begins, blanks aside, with an opening brace. -/
def Opens (cs : List Char) : Prop :=
  (cs.dropWhile isBlank).head? = some '\x7b'

theorem opens_cons_iff {c : Char} {cs : List Char} :
    Opens (c :: cs) ↔ if isBlank c = true then Opens cs else c = '{' := by
  rw [Opens, List.dropWhile_cons]
  split
  · rfl
  · simp

theorem readOnward_ne_object {negative : Bool} {whole cs rest : List Char}
    {ms : List (String × Json)} : readOnward negative whole cs ≠ .ok (.object ms, rest) := by
  unfold readOnward
  split
  · split <;> exact nofun
  · exact nofun

theorem readSimple_ne_object {cs rest : List Char} {ms : List (String × Json)} :
    readSimple cs ≠ .ok (.object ms, rest) := by
  intro read
  unfold readSimple at read
  split at read
  · next found isFound =>
    cases read
    obtain ⟨⟨word, value⟩, mem, isWord⟩ := List.exists_of_findSome?_eq_some isFound
    obtain ⟨after, -, whole⟩ := Option.map_eq_some_iff.mp isWord
    cases whole
    simp [wordValues] at mem
  · by_cases minus : ∃ more, cs = '-' :: more
    · obtain ⟨more, rfl⟩ := minus
      rw [readNumber_minus] at read
      split at read
      · contradiction
      · exact readOnward_ne_object read
    · rw [readNumber_plain (not_exists.mp minus)] at read
      split at read
      · contradiction
      · exact readOnward_ne_object read

theorem opens_of_read {cs : List Char} {ms : List (String × Json)}
    (read : read cs = .ok (.object ms)) : Opens cs := by
  have begins : ∃ more, skipGap cs = '{' :: more := by
    unfold Json.read at read
    split at read
    · contradiction
    · obtain ⟨⟨v, rest⟩, value, onward⟩ := of_bind_eq_ok read
      simp only at onward
      split at onward
      · cases onward
        generalize skipGap cs = ds at value
        unfold readValue at value
        split at value
        · obtain ⟨_, _, same⟩ := of_bind_eq_ok value
          cases same
        · split at value
          · cases value
          · obtain ⟨_, _, same⟩ := of_bind_eq_ok value
            cases same
        · exact ⟨_, rfl⟩
        · exact absurd value readSimple_ne_object
      · contradiction
  obtain ⟨more, begins⟩ := begins
  rw [Opens, ← dropWhile_isBlank_skipGap, begins]
  rfl

/-- Leaving out commas does not uncover an opening brace. -/
theorem opens_of_dropCommas {cs : List Char} (opens : Opens (dropCommas cs)) : Opens cs := by
  induction cs with
  | nil => exact opens
  | cons c cs ih =>
    by_cases dropped : c = ',' ∧ Closes cs
    · rw [dropped.1, dropCommas_of_closes dropped.2] at opens
      have both : Opens cs ∧ Closes cs := ⟨ih opens, dropped.2⟩
      rw [Opens, Closes] at both
      obtain ⟨isOpen, isClose | isClose⟩ := both
      · rw [isOpen] at isClose
        contradiction
      · rw [isOpen] at isClose
        contradiction
    · rw [dropCommas_of_not dropped, opens_cons_iff] at opens
      rw [opens_cons_iff]
      split
      · next blank =>
        rw [if_pos blank] at opens
        exact ih opens
      · next solid => rwa [if_neg solid] at opens

/-- Putting names into double quotes does not bring in an opening brace. -/
theorem opens_of_quoteNames {cs : List Char} {bound : Nat} (opens : Opens (quoteNames bound cs)) :
    Opens cs := by
  induction cs generalizing bound with
  | nil => cases bound <;> exact opens
  | cons c cs ih =>
    rcases quoteNames_cons_cases bound c cs with ⟨next, same⟩ | ⟨d, more, -, same⟩
    · rw [same, opens_cons_iff] at opens
      rw [opens_cons_iff]
      split
      · next blank =>
        rw [if_pos blank] at opens
        exact ih opens
      · next solid => rwa [if_neg solid] at opens
    · rw [same, opens_cons_iff, if_neg (by decide)] at opens
      contradiction

/-- A text that does not begin with an opening brace holds no object, mended or not. -/
theorem opens_of_attempt {place : Place} {cs : List Char} {ms : List (String × Json)}
    (found : attempt place cs = .ok (.found ms)) : Opens cs := by
  unfold attempt at found
  simp only at found
  split at found
  · next read => exact opens_of_read read
  · cases found
  · cases found
  · split at found
    · next read => exact opens_of_dropCommas (opens_of_quoteNames (opens_of_read read))
    · cases found
    · cases found
    · cases found

/-- What is trimmed does not begin with an object, when something else stands in front. -/
theorem not_opens_trim {front : List Char} (noOpen : '{' ∉ front)
    (filled : ∃ c ∈ front, isBlank c = false) (rest : List Char) :
    ¬Opens (trim (front ++ rest)) := by
  obtain ⟨c, mem, solid⟩ := filled
  have ne : front.dropWhile isBlank ≠ [] := List.ne_nil_of_mem (mem_dropWhile mem solid)
  obtain ⟨d, more, begins⟩ := List.exists_cons_of_ne_nil ne
  have dSolid : isBlank d = false := by
    have isHead := List.head_dropWhile_not isBlank ne
    simpa [begins] using isHead
  have dNe : d ≠ '{' := by
    rintro rfl
    exact noOpen ((List.dropWhile_suffix isBlank).subset (begins ▸ List.mem_cons_self))
  have whole : trim (front ++ rest) = d :: trimEnd isBlank (more ++ rest) := by
    rw [trim, List.dropWhile_append, if_neg (by simp [begins]), begins]
    have ends : [d].getLast? = some d := rfl
    exact trimEnd_append ends dSolid (more ++ rest)
  rw [whole]
  rw [opens_cons_iff, if_neg (by simp [dSolid])]
  exact dNe

/-! ## What is extracted -/

/-- A fence that is quoted within a text holds an object. -/
def FenceHolds (cs : List Char) (members : List (String × Json)) : Prop :=
  ∃ body, fenced? cs = some body ∧ attempt .fence body = .ok (.found members)

/-- A fence that is quoted within a text holds no object, or there is none. -/
def FenceFails (cs : List Char) : Prop :=
  ∀ body, fenced? cs = some body → ∃ reports, attempt .fence body = .ok (.failed reports)

namespace Written

variable {o : List Char} {ms : List (String × Json)} (written : Written o ms)

include written

theorem exists_failed_front {front rest : List Char} (whole : o = front ++ rest) (more : rest ≠ [])
    (ends : front.getLast? = some '}') (place : Place) :
    ∃ reports, Json.attempt place front = .ok (.failed reports) := by
  subst whole
  refine written.exists_failed (written.lexed.worn_front ends ⟨'}', ?_, by decide⟩) place
  have last := written.ends
  rw [List.getLast?_append, Option.or_of_isSome (by simpa using more)] at last
  exact List.mem_of_getLast? last

/-- Behind the fence the object is found between its braces or as the whole text. -/
theorem firstObject_iff (reports : List String) (whole : List Char) :
    firstObject reports (((braced? o).map fun body => (Place.braces, body)).toList ++
      [(.whole, whole)]) = .ok (.object ms) ↔
      MatchesLast o ∨ Json.attempt .whole whole = .ok (.found ms) := by
  have alone (reports : List String) : firstObject reports [(.whole, whole)] = .ok (.object ms) ↔
      Json.attempt .whole whole = .ok (.found ms) := by
    rw [firstObject_singleton_iff]
    constructor
    · rintro ⟨found, isFound, same⟩
      cases same
      exact isFound
    · exact fun isFound => ⟨ms, isFound, rfl⟩
  obtain ⟨more, rfl⟩ := written.exists_cons
  rcases braced?_cases more with ⟨last, found⟩ | ⟨early, cut⟩
  · rw [found]
    exact iff_of_true (firstObject_found (written.attempt _) _) (.inl last)
  · rw [or_iff_right early]
    cases found : braced? ('{' :: more) with
    | none => exact alone reports
    | some front =>
      obtain ⟨rest, isFront, ne, ends⟩ := cut front found
      obtain ⟨more, failed⟩ := written.exists_failed_front isFront ne ends .braces
      rw [Option.map_some, Option.toList_some, List.singleton_append, firstObject_failed failed]
      exact alone _

/-- The whole text is the object when it stands between blanks, and otherwise holds none. -/
theorem attempt_whole_iff {u w : List Char} (before : '{' ∉ u) :
    Json.attempt .whole (trim (u ++ o ++ w)) = .ok (.found ms) ↔
      ∀ c ∈ u ++ w, isBlank c = true := by
  by_cases uBlank : ∀ c ∈ u, isBlank c = true
  · have trimmed : trim (u ++ o ++ w) = o ++ trimEnd isBlank w := by
      obtain ⟨more, rfl⟩ := written.exists_cons
      rw [trim, List.append_assoc, List.dropWhile_append_of_pos uBlank,
        dropWhile_eq_self (by simp; decide), trimEnd_append written.ends (by decide)]
    rw [trimmed]
    by_cases wBlank : ∀ c ∈ w, isBlank c = true
    · have nothing : trimEnd isBlank w = [] := by
        rw [trimEnd, List.dropWhile_eq_nil_iff.mpr fun c mem => wBlank c (List.mem_reverse.mp mem),
          List.reverse_nil]
      rw [nothing, List.append_nil]
      refine iff_of_true (written.attempt _) ?_
      intro c mem
      exact (List.mem_append.mp mem).elim (uBlank c) (wBlank c)
    · have filled : Filled (trimEnd isBlank w) := by
        obtain ⟨c, mem, solid⟩ : ∃ c ∈ w, isBlank c = false := by simpa using wBlank
        have kept := mem_dropWhile (List.mem_reverse.mpr mem) solid
        refine ⟨c, List.mem_reverse.mpr kept, ?_⟩
        rw [← Bool.not_eq_true] at solid ⊢
        exact mt isBlank_of_isGap solid
      have worn := written.lexed.worn_append written.ends filled
      obtain ⟨reports, failed⟩ := written.exists_failed worn .whole
      refine iff_of_false ?_ fun all => wBlank fun c mem => all c (List.mem_append_right u mem)
      rw [failed]
      intro found
      cases found
  · refine iff_of_false ?_ fun all => uBlank fun c mem => all c (List.mem_append_left w mem)
    intro found
    have filled : ∃ c ∈ u, isBlank c = false := by simpa using uBlank
    rw [List.append_assoc] at found
    exact not_opens_trim before filled _ (opens_of_attempt found)

/-- An object in a text without marks around it. -/
theorem firstObject_text_iff {u w : List Char} (before : Unmarked u) (behind : Unmarked w) :
    firstObject [] (candidates (u ++ o ++ w)) = .ok (.object ms) ↔
      FenceHolds o ms ∨ FenceFails o ∧ (MatchesLast o ∨ ∀ c ∈ u ++ w, isBlank c = true) := by
  have sameFence : fenced? (u ++ o ++ w) = fenced? o := by
    rw [List.append_assoc, fenced?_append_front before.2.2, behind.fenced?_append written.ends]
  have sameBraces : braced? (u ++ o ++ w) = braced? o := by
    obtain ⟨more, rfl⟩ := written.exists_cons
    exact braced?_append before.1 behind.2.1
  rw [candidates, sameFence, sameBraces, List.append_assoc, FenceHolds, FenceFails]
  have later (reports : List String) := written.firstObject_iff reports (trim (u ++ o ++ w))
  rw [written.attempt_whole_iff before.1] at later
  cases fenced? o with
  | none => simpa using later []
  | some body =>
    rw [Option.map_some, Option.toList_some, List.singleton_append]
    simp only [Option.some.injEq, forall_eq', exists_eq_left']
    rcases isTried : Json.attempt .fence body with error | found | reports
    · simp [firstObject, isTried]
    · rw [firstObject_found isTried]
      simp
    · rw [firstObject_failed isTried, later]
      simp

/-- An object in a fence of its own. -/
theorem firstObject_block_iff {u w : List Char} (before : Unmarked u) (behind : Unmarked w) :
    firstObject [] (candidates (u ++ fence ++ label ++ '\n' :: o ++ '\n' :: fence ++ w)) =
      .ok (.object ms) ↔ Unfenced o ∨ MatchesLast o := by
  obtain ⟨more, rfl⟩ := written.exists_cons
  have moreEnds : more.getLast? = some '}' := by
    have ends := written.ends
    cases more with
    | nil => contradiction
    | cons c more => simpa using ends
  generalize isText : u ++ fence ++ label ++ '\n' :: '{' :: more ++ '\n' :: fence ++ w = text
  have sameBraces : braced? text = braced? ('{' :: more) := by
    have whole : text = u ++ fence ++ label ++ ['\n'] ++ '{' :: more ++ ('\n' :: fence ++ w) := by
      simp [← isText]
    rw [whole]
    refine braced?_append ?_ ?_
    · simp [before.1, fence, label]
    · simp [behind.2.1, fence]
  have notWhole : Json.attempt .whole (trim text) ≠ .ok (.found ms) := by
    have whole : text = u ++ fence ++ (label ++ '\n' :: '{' :: more ++ '\n' :: fence ++ w) := by
      simp [← isText]
    intro found
    rw [whole] at found
    refine not_opens_trim ?_ ⟨'`', ?_, by decide⟩ _ (opens_of_attempt found)
    · simp [before.1, fence]
    · simp [fence]
  have whole : text = u ++ (fence ++ label ++ '\n' :: '{' :: (more ++ ('\n' :: fence ++ w))) := by
    simp [← isText]
  have isFence : fence <+: ('\n' :: fence ++ w).dropWhile isBlank := ⟨w, rfl⟩
  obtain ⟨found, cut, isFound, isFront, ends, unfenced⟩ := exists_fenced?_block moreEnds isFence
  rw [candidates, whole, fenced?_append_front before.2.2, isFound, ← whole, sameBraces,
    Option.map_some, Option.toList_some, List.singleton_append, List.cons_append]
  rw [unfenced_cons_iff (by simp), ← unfenced]
  by_cases uncut : cut = []
  · subst uncut
    rw [List.append_nil] at isFront
    subst isFront
    exact iff_of_true (firstObject_found (written.attempt _) _) (.inl rfl)
  · have frontEnds : ('{' :: found).getLast? = some '}' := by
      rw [List.getLast?_cons, ends]
      rfl
    obtain ⟨reports, failed⟩ := written.exists_failed_front (by rw [isFront]; rfl) uncut frontEnds
      .fence
    rw [firstObject_failed failed, written.firstObject_iff, or_iff_left notWhole,
      or_iff_right uncut]

end Written

theorem extract_text (u o w : String) : extract (u ++ o ++ w) =
    firstObject [] (candidates (u.toList ++ o.toList ++ w.toList)) := by
  rw [extract, String.toList_append, String.toList_append]

theorem extract_block (u o w : String) : extract (u ++ "```json\n" ++ o ++ "\n```" ++ w) =
    firstObject [] (candidates
      (u.toList ++ fence ++ label ++ '\n' :: o.toList ++ '\n' :: fence ++ w.toList)) := by
  have opened : "```json\n".toList = fence ++ label ++ ['\n'] := by decide
  have closed : "\n```".toList = '\n' :: fence := by decide
  rw [extract]
  simp [opened, closed]

/-- From a text around it that has no braces and no backticks an object is extracted just when its
braces match at its end only, counted without regard to what is quoted, or it stands alone, unless a
fence that is quoted in it holds another object.  From a fence of its own it is extracted just when its
braces match in this way or none of them stands in front of a quoted fence. -/
theorem extracted_iff {u o w : String} {ms : List (String × Json)} (written : Written o.toList ms)
    (before : Unmarked u.toList) (behind : Unmarked w.toList) :
    (extract (u ++ o ++ w) = .ok (.object ms) ↔
      FenceHolds o.toList ms ∨ FenceFails o.toList ∧
        (MatchesLast o.toList ∨ ∀ c ∈ u.toList ++ w.toList, isBlank c = true)) ∧
    (extract (u ++ "```json\n" ++ o ++ "\n```" ++ w) = .ok (.object ms) ↔
      Unfenced o.toList ∨ MatchesLast o.toList) := by
  rw [extract_text, extract_block]
  exact ⟨written.firstObject_text_iff before behind, written.firstObject_block_iff before behind⟩

/-- The object here quotes a pair of braces and the marks of a fence. -/
theorem extracted_iff_quoting :
    extract ("Here: " ++ "\x7b\"a\": \"\x7b\x7d ``` \", \"b\": [1, true]\x7d" ++ " Done.") =
        .ok (.object [("a", .text "\x7b\x7d ``` "), ("b", .array [.int 1, .bool true])]) ∧
      extract ("Here: " ++ "```json\n" ++ "\x7b\"a\": \"\x7b\x7d ``` \", \"b\": [1, true]\x7d" ++
          "\n```" ++ " Done.") =
        .ok (.object [("a", .text "\x7b\x7d ``` "), ("b", .array [.int 1, .bool true])]) := by
  have written : Written "\x7b\"a\": \"\x7b\x7d ``` \", \"b\": [1, true]\x7d".toList
      [("a", .text "\x7b\x7d ``` "), ("b", .array [.int 1, .bool true])] :=
    ⟨by decide, by decide, by cbv⟩
  have before : Unmarked "Here: ".toList := ⟨by decide, by decide, by decide⟩
  have behind : Unmarked " Done.".toList := ⟨by decide, by decide, by decide⟩
  have noFence : fenced? "\x7b\"a\": \"\x7b\x7d ``` \", \"b\": [1, true]\x7d".toList = none := by
    cbv
  have last : MatchesLast "\x7b\"a\": \"\x7b\x7d ``` \", \"b\": [1, true]\x7d".toList :=
    (braced?_eq_self_iff written.opens).mp (by cbv)
  have fails : FenceFails "\x7b\"a\": \"\x7b\x7d ``` \", \"b\": [1, true]\x7d".toList := by
    intro body found
    rw [noFence] at found
    cases found
  have both := extracted_iff written before behind
  exact ⟨both.1.mpr (.inr ⟨fails, .inl last⟩), both.2.mpr (.inr last)⟩

/-- An object is not always recovered from the text around it: a brace that it quotes closes it. -/
theorem not_always_extracted :
    ¬∀ (u o w : String) (ms : List (String × Json)), Written o.toList ms → Unmarked u.toList →
      Unmarked w.toList → extract (u ++ o ++ w) = .ok (.object ms) ∧
        extract (u ++ "```json\n" ++ o ++ "\n```" ++ w) = .ok (.object ms) := by
  intro all
  have written : Written "\x7b\"a\": \"\x7d\"\x7d".toList [("a", .text "\x7d")] :=
    ⟨by decide, by decide, by cbv⟩
  have before : Unmarked "Here: ".toList := ⟨by decide, by decide, by decide⟩
  have behind : Unmarked "".toList := ⟨by decide, by decide, by decide⟩
  have found := (all _ _ _ _ written before behind).1
  have failed : extract ("Here: " ++ "\x7b\"a\": \"\x7d\"\x7d" ++ "") = .error (.noObject
      ["JSON object: Unterminated string starting at: line 1 column 7 (char 6)",
        "JSON object: Unterminated string starting at: line 1 column 7 (char 6)",
        "Full text: Expecting value: line 1 column 1 (char 0)",
        "Full text: Expecting value: line 1 column 1 (char 0)"]) := by
    cbv
  rw [failed] at found
  contradiction

end FactModel.Json
