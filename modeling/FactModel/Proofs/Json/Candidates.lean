import FactModel.Json.Extract
import Mathlib.Data.List.TakeWhile

/-!
# Where an object is looked for

Braces and fences are matched without regard to what is quoted.  A text from an opening to a closing
brace is therefore found as a whole, or only a part of its front that ends in a brace.  Texts that
have neither braces nor backticks change nothing when they stand around it.
-/

namespace FactModel.Json

open FactModel.Text

/-! ## The object between braces -/

/-- Counted over all of its characters, texts in quotes included, the braces of a text match at its
end and nowhere before. -/
def MatchesLast (cs : List Char) : Prop :=
  ∀ front back, cs = front ++ back → front ≠ [] →
    (front.count '{' = front.count '}' ↔ back = [])

/-- How many braces more than one are open behind a character. -/
def depthBehind (c : Char) (depth : Nat) : Nat :=
  if c = '{' then depth + 1 else if c = '}' then depth - 1 else depth

theorem closing_cons (depth : Nat) (c : Char) (cs : List Char) : closing depth (c :: cs) =
    if depth = 0 ∧ c = '}' then some [c]
    else (closing (depthBehind c depth) cs).map (c :: ·) := by
  by_cases opens : c = '{'
  · subst opens
    simp [closing, depthBehind]
  · by_cases closes : c = '}'
    · subst closes
      cases depth <;> simp [closing, depthBehind]
    · simp [closing, depthBehind, opens, closes]

/-- Text without closing braces changes nothing behind. -/
theorem closing_append {rest : List Char} (noBrace : '}' ∉ rest) (depth : Nat) (cs : List Char) :
    closing depth (cs ++ rest) = closing depth cs := by
  induction cs generalizing depth with
  | nil =>
    induction rest generalizing depth with
    | nil => rfl
    | cons c rest ih =>
      rw [List.mem_cons, not_or] at noBrace
      rw [List.nil_append, closing_cons, if_neg fun closes => noBrace.1 closes.2.symm]
      have later := ih noBrace.2 (depthBehind c depth)
      rw [List.nil_append] at later
      rw [later]
      rfl
  | cons c cs ih => rw [List.cons_append, closing_cons, closing_cons, ih]

/-- What is found ends in a brace. -/
theorem of_closing_eq_some {depth : Nat} {cs found : List Char}
    (closes : closing depth cs = some found) : found <+: cs ∧ found.getLast? = some '}' := by
  induction cs generalizing depth found with
  | nil => contradiction
  | cons c cs ih =>
    rw [closing_cons] at closes
    split at closes
    · next last =>
      obtain ⟨-, rfl⟩ := last
      cases closes
      exact ⟨⟨cs, rfl⟩, rfl⟩
    · obtain ⟨more, later, rfl⟩ := Option.map_eq_some_iff.mp closes
      obtain ⟨isFront, ends⟩ := ih later
      refine ⟨List.cons_prefix_cons.mpr ⟨rfl, isFront⟩, ?_⟩
      rw [List.getLast?_cons, ends]
      rfl

theorem count_cons_iff {depth : Nat} {c : Char} (goesOn : ¬(depth = 0 ∧ c = '}')) (cs : List Char) :
    (c :: cs).count '}' = (c :: cs).count '{' + depth + 1 ↔
      cs.count '}' = cs.count '{' + depthBehind c depth + 1 := by
  by_cases opens : c = '{'
  · subst opens
    simp [depthBehind]
    omega
  · by_cases closes : c = '}'
    · subst closes
      simp [depthBehind] at goesOn ⊢
      omega
    · simp [depthBehind, opens, closes]

/-- The whole of a text is found when it closes one brace more than it opens, and no text at its
front does. -/
theorem closing_eq_self_iff {depth : Nat} {cs : List Char} : closing depth cs = some cs ↔
    ∀ front back, cs = front ++ back →
      (front.count '}' = front.count '{' + depth + 1 ↔ back = []) := by
  induction cs generalizing depth with
  | nil =>
    refine iff_of_false nofun fun all => ?_
    have impossible := (all [] [] rfl).mpr rfl
    simp at impossible
  | cons c cs ih =>
    rw [closing_cons]
    split
    · next last =>
      obtain ⟨rfl, rfl⟩ := last
      constructor
      · intro same front back whole
        obtain rfl : [] = cs := by simpa using same
        rcases List.cons_eq_append_iff.mp whole with ⟨rfl, rfl⟩ | ⟨more, rfl, nothing⟩
        · simp
        · obtain ⟨rfl, rfl⟩ := List.append_eq_nil_iff.mp nothing.symm
          simp
      · intro all
        rw [(all ['}'] cs rfl).mp (by decide)]
    · next goesOn =>
      rw [Option.map_eq_some_iff]
      simp only [List.cons.injEq, true_and, exists_eq_right]
      rw [ih]
      constructor
      · intro all front back whole
        rcases List.cons_eq_append_iff.mp whole with ⟨rfl, rfl⟩ | ⟨more, rfl, rest⟩
        · simp
        · rw [count_cons_iff goesOn]
          exact all more back rest
      · intro all front back whole
        rw [← count_cons_iff goesOn]
        exact all (c :: front) back (by rw [whole]; rfl)

theorem braced?_cons (cs : List Char) : braced? ('{' :: cs) = (closing 0 cs).map ('{' :: ·) :=
  rfl

theorem braced?_append {front cs rest : List Char} (noOpen : '{' ∉ front) (noClose : '}' ∉ rest) :
    braced? (front ++ '{' :: cs ++ rest) = braced? ('{' :: cs) := by
  have skip : (front ++ '{' :: cs ++ rest).dropWhile (· ≠ '{') = '{' :: (cs ++ rest) := by
    rw [List.append_assoc, List.dropWhile_append_of_pos]
    · rfl
    · intro c mem
      have ne : c ≠ '{' := fun same => noOpen (same ▸ mem)
      simpa using ne
  rw [braced?, skip, braced?_cons]
  exact congrArg (Option.map ('{' :: ·)) (closing_append noClose 0 cs)

theorem braced?_eq_self_iff {cs : List Char} (opens : cs.head? = some '{') :
    braced? cs = some cs ↔ MatchesLast cs := by
  obtain ⟨cs, rfl⟩ := List.head?_eq_some_iff.mp opens
  rw [braced?_cons, Option.map_eq_some_iff]
  simp only [List.cons.injEq, true_and, exists_eq_right]
  rw [closing_eq_self_iff]
  constructor
  · intro all front back whole ne
    rcases List.cons_eq_append_iff.mp whole with ⟨rfl, rfl⟩ | ⟨more, rfl, rest⟩
    · contradiction
    · rw [← all more back rest]
      simp
      omega
  · intro all front back whole
    rw [← all ('{' :: front) back (by rw [whole]; rfl) nofun]
    simp
    omega

/-- Between braces the text is found, or a part of its front that ends in a brace, or nothing. -/
theorem braced?_cases (cs : List Char) :
    MatchesLast ('{' :: cs) ∧ braced? ('{' :: cs) = some ('{' :: cs) ∨
      ¬MatchesLast ('{' :: cs) ∧ ∀ found, braced? ('{' :: cs) = some found →
        ∃ rest, '{' :: cs = found ++ rest ∧ rest ≠ [] ∧ found.getLast? = some '}' := by
  by_cases last : MatchesLast ('{' :: cs)
  · exact .inl ⟨last, (braced?_eq_self_iff rfl).mpr last⟩
  · refine .inr ⟨last, fun found isFound => ?_⟩
    obtain ⟨body, closes, rfl⟩ := Option.map_eq_some_iff.mp isFound
    obtain ⟨⟨rest, rfl⟩, ends⟩ := of_closing_eq_some closes
    refine ⟨rest, rfl, ?_, by rw [List.getLast?_cons, ends]; rfl⟩
    rintro rfl
    rw [List.append_nil] at last closes
    exact last ((braced?_eq_self_iff rfl).mp (by rw [braced?_cons, closes]; rfl))

/-! ## The object in a fence -/

/-- No closing brace of a text stands, blanks aside, in front of a fence. -/
def Unfenced (cs : List Char) : Prop :=
  ∀ front back, cs = front ++ '}' :: back → ¬fence <+: back.dropWhile isBlank

/-- A word without closing braces does not go beyond a text that ends in one. -/
theorem prefix_append_iff {word cs rest : List Char} (noBrace : '}' ∉ word)
    (ends : cs.getLast? = some '}') : word <+: cs ++ rest ↔ word <+: cs := by
  constructor
  · intro isFront
    rcases List.prefix_or_prefix_of_prefix isFront (List.prefix_append cs rest) with within | beyond
    · exact within
    · exact absurd (beyond.subset (List.mem_of_getLast? ends)) noBrace
  · exact fun isFront => isFront.trans (List.prefix_append cs rest)

theorem dropWhile_append_of_brace {cs : List Char} (ends : cs.getLast? = some '}')
    (rest : List Char) : (cs ++ rest).dropWhile isBlank = cs.dropWhile isBlank ++ rest ∧
      (cs.dropWhile isBlank).getLast? = some '}' := by
  have ne : cs.dropWhile isBlank ≠ [] := by
    intro nothing
    have blank := List.dropWhile_eq_nil_iff.mp nothing _ (List.mem_of_getLast? ends)
    exact absurd blank (by decide)
  constructor
  · rw [List.dropWhile_append, if_neg (by simpa using ne)]
  · rw [← List.takeWhile_append_dropWhile (p := isBlank) (l := cs), List.getLast?_append,
      Option.or_of_isSome (by simpa using ne)] at ends
    exact ends

theorem fence_prefix_iff {cs : List Char} (ends : cs.getLast? = some '}') (rest : List Char) :
    fence <+: (cs ++ rest).dropWhile isBlank ↔ fence <+: cs.dropWhile isBlank := by
  obtain ⟨same, stillEnds⟩ := dropWhile_append_of_brace ends rest
  rw [same, prefix_append_iff (by decide) stillEnds]

theorem fencedBody_cons (c : Char) (cs : List Char) : fencedBody (c :: cs) =
    if c = '}' ∧ fence <+: cs.dropWhile isBlank then some [c]
    else (fencedBody cs).map (c :: ·) := by
  simp only [fencedBody, List.isPrefixOf_iff_prefix]

theorem unfenced_cons_iff {c : Char} {cs : List Char}
    (goesOn : ¬(c = '}' ∧ fence <+: cs.dropWhile isBlank)) : Unfenced (c :: cs) ↔ Unfenced cs := by
  constructor
  · intro all front back whole
    exact all (c :: front) back (by rw [whole]; rfl)
  · intro all front back whole
    rcases List.cons_eq_append_iff.mp whole with ⟨rfl, same⟩ | ⟨more, rfl, rest⟩
    · obtain ⟨rfl, rfl⟩ := List.cons.inj same
      exact fun isFence => goesOn ⟨rfl, isFence⟩
    · exact all more back rest

/-- In front of a fence a text that ends in a brace is found, or a part of its front that does. -/
theorem exists_fencedBody {cs rest : List Char} (ends : cs.getLast? = some '}')
    (isFence : fence <+: rest.dropWhile isBlank) :
    ∃ found more, fencedBody (cs ++ rest) = some found ∧ cs = found ++ more ∧
      found.getLast? = some '}' ∧ (more = [] ↔ Unfenced cs) := by
  induction cs with
  | nil => contradiction
  | cons c cs ih =>
    rw [List.cons_append, fencedBody_cons]
    cases cs with
    | nil =>
      obtain rfl : c = '}' := by simpa using ends
      refine ⟨['}'], [], if_pos ⟨rfl, isFence⟩, rfl, rfl, iff_of_true rfl ?_⟩
      rw [unfenced_cons_iff (by simp [fence])]
      simp [Unfenced]
    | cons d cs =>
      have stillEnds : (d :: cs).getLast? = some '}' := by simpa using ends
      simp only [fence_prefix_iff stillEnds]
      by_cases closes : c = '}' ∧ fence <+: (d :: cs).dropWhile isBlank
      · obtain ⟨rfl, here⟩ := closes
        refine ⟨['}'], d :: cs, if_pos ⟨rfl, here⟩, rfl, rfl, iff_of_false nofun fun all => ?_⟩
        exact all [] (d :: cs) rfl here
      · obtain ⟨found, more, isFound, whole, foundEnds, all⟩ := ih stillEnds
        refine ⟨c :: found, more, by rw [if_neg closes, isFound]; rfl, by rw [whole]; rfl, ?_, ?_⟩
        · rw [List.getLast?_cons, foundEnds]
          rfl
        · rw [unfenced_cons_iff closes, all]

/-- A text that has none of the marks of objects and fences. -/
def Unmarked (cs : List Char) : Prop :=
  '{' ∉ cs ∧ '}' ∉ cs ∧ '`' ∉ cs

theorem Unmarked.of_cons {c : Char} {cs : List Char} (unmarked : Unmarked (c :: cs)) :
    Unmarked cs := by
  obtain ⟨noOpen, noClose, noTick⟩ := unmarked
  exact ⟨mt (List.mem_cons_of_mem c) noOpen, mt (List.mem_cons_of_mem c) noClose,
    mt (List.mem_cons_of_mem c) noTick⟩

theorem Unmarked.fencedBody {cs : List Char} (unmarked : Unmarked cs) : fencedBody cs = none := by
  induction cs with
  | nil => rfl
  | cons c cs ih =>
    rw [fencedBody_cons, if_neg, ih unmarked.of_cons]
    · rfl
    · rintro ⟨rfl, -⟩
      exact unmarked.2.1 List.mem_cons_self

theorem Unmarked.not_fence {cs : List Char} (unmarked : Unmarked cs) :
    ¬fence <+: cs.dropWhile isBlank := by
  intro isFence
  have mem : '`' ∈ cs.dropWhile isBlank := isFence.subset (by decide)
  exact unmarked.2.2 ((List.dropWhile_suffix _).subset mem)

/-- A text without marks changes nothing in front of it. -/
theorem Unmarked.fencedBody_append {cs rest : List Char} (unmarked : Unmarked rest)
    (ends : cs.getLast? = some '}') : Json.fencedBody (cs ++ rest) = Json.fencedBody cs := by
  induction cs with
  | nil => contradiction
  | cons c cs ih =>
    rw [List.cons_append, fencedBody_cons, fencedBody_cons]
    cases cs with
    | nil => 
      rw [List.nil_append, if_neg fun here => unmarked.not_fence here.2, unmarked.fencedBody,
        if_neg (by simp [fence])]
      rfl
    | cons d cs =>
      have stillEnds : (d :: cs).getLast? = some '}' := by simpa using ends
      simp only [fence_prefix_iff stillEnds, ih stillEnds]

theorem drop_append_of_prefix {word cs : List Char} (noBrace : '}' ∉ word)
    (ends : cs.getLast? = some '}') (isFront : word <+: cs) (rest : List Char) :
    (cs ++ rest).drop word.length = cs.drop word.length ++ rest ∧
      (cs.drop word.length).getLast? = some '}' := by
  obtain ⟨more, rfl⟩ := isFront
  have ne : more ≠ [] := by
    rintro rfl
    rw [List.append_nil] at ends
    exact noBrace (List.mem_of_getLast? ends)
  rw [List.getLast?_append, Option.or_of_isSome (by simpa using ne)] at ends
  simp [List.append_assoc, ends]

/-- The object that a text begins with, blanks aside, up to a fence. -/
def leadingBody (cs : List Char) : Option (List Char) :=
  match cs.dropWhile isBlank with
  | '{' :: rest => (fencedBody rest).map ('{' :: ·)
  | _ => none

/-- The label of a fence around an object. -/
def label : List Char :=
  ['j', 's', 'o', 'n']

theorem fencedAt_eq (cs : List Char) : fencedAt cs =
    if fence <+: cs then
      leadingBody (if label <+: cs.drop fence.length then
        (cs.drop fence.length).drop label.length else cs.drop fence.length)
    else none := by
  have isLabel : "json".toList = label := by decide
  rw [fencedAt]
  simp only [isLabel, List.isPrefixOf_iff_prefix]
  rfl

theorem Unmarked.leadingBody_append {cs rest : List Char} (unmarked : Unmarked rest)
    (ends : cs.getLast? = some '}') : leadingBody (cs ++ rest) = leadingBody cs := by
  obtain ⟨same, stillEnds⟩ := dropWhile_append_of_brace ends rest
  unfold leadingBody
  rw [same]
  cases cut : cs.dropWhile isBlank with
  | nil =>
    rw [cut] at stillEnds
    contradiction
  | cons c ds =>
    rw [cut] at stillEnds
    by_cases opens : c = '{'
    · subst opens
      cases ds with
      | nil => contradiction
      | cons d ds =>
        have later : (d :: ds).getLast? = some '}' := by simpa using stillEnds
        exact congrArg (Option.map ('{' :: ·)) (unmarked.fencedBody_append later)
    · simp [opens]

theorem Unmarked.fencedAt_append {cs rest : List Char} (unmarked : Unmarked rest)
    (ends : cs.getLast? = some '}') : fencedAt (cs ++ rest) = fencedAt cs := by
  simp only [fencedAt_eq, prefix_append_iff (show '}' ∉ fence by decide) ends]
  split
  · next isFence =>
    obtain ⟨same, stillEnds⟩ := drop_append_of_prefix (by decide) ends isFence rest
    simp only [same, prefix_append_iff (show '}' ∉ label by decide) stillEnds]
    split
    · next isLabel =>
      obtain ⟨same, stillEnds⟩ := drop_append_of_prefix (by decide) stillEnds isLabel rest
      rw [same, unmarked.leadingBody_append stillEnds]
    · rw [unmarked.leadingBody_append stillEnds]
  · rfl

theorem fencedAt_of_ne {c : Char} (ne : c ≠ '`') (cs : List Char) : fencedAt (c :: cs) = none := by
  rw [fencedAt_eq, if_neg]
  rintro ⟨more, same⟩
  exact ne (List.cons.inj same).1.symm

theorem fenced?_cons_of_ne {c : Char} (ne : c ≠ '`') (cs : List Char) :
    fenced? (c :: cs) = fenced? cs := by
  rw [fenced?, fencedAt_of_ne ne]

/-- In front of the first backtick no fence begins. -/
theorem fenced?_append_front {front : List Char} (noTick : '`' ∉ front) (cs : List Char) :
    fenced? (front ++ cs) = fenced? cs := by
  induction front with
  | nil => rfl
  | cons c front ih =>
    rw [List.mem_cons, not_or] at noTick
    rw [List.cons_append, fenced?_cons_of_ne (Ne.symm noTick.1), ih noTick.2]

theorem fenced?_of_not_mem {cs : List Char} (noTick : '`' ∉ cs) : fenced? cs = none := by
  have nothing := fenced?_append_front noTick []
  rwa [List.append_nil] at nothing

theorem Unmarked.fenced?_append {cs rest : List Char} (unmarked : Unmarked rest)
    (ends : cs.getLast? = some '}') : fenced? (cs ++ rest) = fenced? cs := by
  induction cs with
  | nil => contradiction
  | cons c cs ih =>
    cases cs with
    | nil =>
      obtain rfl : c = '}' := by simpa using ends
      rw [List.cons_append, fenced?_cons_of_ne (by decide), fenced?_cons_of_ne (by decide)]
      exact fenced?_of_not_mem unmarked.2.2
    | cons d cs =>
      have stillEnds : (d :: cs).getLast? = some '}' := by simpa using ends
      rw [List.cons_append, fenced?, fenced?, ← List.cons_append, unmarked.fencedAt_append ends,
        ih stillEnds]

theorem fencedAt_block (cs : List Char) : fencedAt (fence ++ label ++ '\n' :: '{' :: cs) =
    (fencedBody cs).map ('{' :: ·) := by
  rw [fencedAt_eq, if_pos ⟨_, (List.append_assoc ..).symm⟩]
  have behind : (fence ++ label ++ '\n' :: '{' :: cs).drop fence.length =
      label ++ '\n' :: '{' :: cs := by
    rw [List.append_assoc, List.drop_left]
  rw [behind, if_pos ⟨_, rfl⟩, List.drop_left]
  rfl

theorem fenced?_of_fencedAt {cs body : List Char} (here : fencedAt cs = some body) :
    fenced? cs = some body := by
  cases cs with
  | nil => contradiction
  | cons c cs => rw [fenced?, here]

/-- In a fence of its own a text that ends in a brace is found, or a part of its front that does. -/
theorem exists_fenced?_block {cs rest : List Char} (ends : cs.getLast? = some '}')
    (isFence : fence <+: rest.dropWhile isBlank) :
    ∃ found more, fenced? (fence ++ label ++ '\n' :: '{' :: (cs ++ rest)) = some ('{' :: found) ∧
      cs = found ++ more ∧ found.getLast? = some '}' ∧ (more = [] ↔ Unfenced cs) := by
  obtain ⟨found, more, isFound, whole⟩ := exists_fencedBody ends isFence
  refine ⟨found, more, ?_, whole⟩
  have here := fencedAt_block (cs ++ rest)
  rw [isFound] at here
  exact fenced?_of_fencedAt here

end FactModel.Json
