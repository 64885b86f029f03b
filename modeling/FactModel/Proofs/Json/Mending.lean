import FactModel.Proofs.Json.Reading
import Mathlib.Data.List.TakeWhile

/-!
# What mending does to a damaged text

A text is damaged when it is cut off behind one of its braces or when something follows it.  Mending
leaves out no character that stands outside of its texts in quotes, and the first double quote that
mending puts into a text in quotes ends that text in front of a letter.
-/

namespace FactModel.Json

open FactModel.Text

/-! ## Damage -/

/-- Whether a text holds more than gaps. -/
def Filled (cs : List Char) : Prop :=
  ∃ c ∈ cs, isGap c = false

/-- The second text is what the first has become: the texts in quotes may have changed, and it ends
early, in a text in quotes that is torn or behind a closing brace, or something follows it. -/
inductive Worn (Torn : List Char → Prop) : List Char → List Char → Prop where
  | plain {c : Char} {cs ds : List Char} (double : c ≠ '"') (single : c ≠ '\'')
      (comma : c = ',' → ¬Closes cs) (rest : Worn Torn cs ds) : Worn Torn (c :: cs) (c :: ds)
  | text {s t cs ds : List Char} (body : Body t) (changed : Body s) (rest : Worn Torn cs ds) :
    Worn Torn ('"' :: (t ++ '"' :: cs)) ('"' :: (s ++ '"' :: ds))
  | torn {cs ds : List Char} (torn : Torn ds) : Worn Torn ('"' :: cs) ('"' :: ds)
  | cut {cs : List Char} (more : Filled cs) : Worn Torn ('}' :: cs) ['}']
  | longer {ds : List Char} (more : Filled ds) : Worn Torn ['}'] ('}' :: ds)

/-- What a torn text becomes: it has no end, or it ends in front of a letter. -/
def Burst (ds : List Char) : Prop :=
  Body ds ∨ ∃ t c rest, Body t ∧ isWord c = true ∧ ds = t ++ '"' :: c :: rest

namespace Worn

variable {Torn : List Char → Prop} {cs ds : List Char}

theorem head?_eq (worn : Worn Torn cs ds) : ds.head? = cs.head? := by
  cases worn <;> rfl

theorem ne_cons {c : Char} (worn : Worn Torn cs ds) (goesOn : ∀ rest, cs ≠ c :: rest)
    (rest : List Char) : ds ≠ c :: rest := by
  rintro rfl
  obtain ⟨more, rfl⟩ := List.head?_eq_some_iff.mp worn.head?_eq.symm
  exact goesOn more rfl

theorem dropWhile {p : Char → Bool} (quote : p '"' = false) (brace : p '\x7d' = false)
    (worn : Worn Torn cs ds) : Worn Torn (cs.dropWhile p) (ds.dropWhile p) := by
  induction worn with
  | @plain c cs ds double single comma rest ih =>
    simp only [List.dropWhile_cons]
    split
    · exact ih
    · exact .plain double single comma rest
  | text body changed rest =>
    simp only [List.dropWhile_cons, quote]
    exact .text body changed rest
  | torn torn =>
    simp only [List.dropWhile_cons, quote]
    exact .torn torn
  | cut more =>
    simp only [List.dropWhile_cons, brace]
    exact .cut more
  | longer more =>
    simp only [List.dropWhile_cons, brace]
    exact .longer more

theorem skipGap (worn : Worn Torn cs ds) : Worn Torn (skipGap cs) (skipGap ds) :=
  worn.dropWhile (by decide) (by decide)

theorem closes_iff (worn : Worn Torn cs ds) : Closes ds ↔ Closes cs := by
  have same := (worn.dropWhile (p := isBlank) (by decide) (by decide)).head?_eq
  rw [Closes, Closes, same]

end Worn

/-! ## Mending -/

theorem dropCommas_of_closes {cs : List Char} (closes : Closes cs) :
    dropCommas (',' :: cs) = dropCommas cs :=
  if_pos ⟨rfl, closes⟩

theorem dropCommas_of_not {c : Char} {cs : List Char} (stays : ¬(c = ',' ∧ Closes cs)) :
    dropCommas (c :: cs) = c :: dropCommas cs :=
  if_neg stays

theorem dropCommas_cons_of_ne {c : Char} (ne : c ≠ ',') (cs : List Char) :
    dropCommas (c :: cs) = c :: dropCommas cs :=
  dropCommas_of_not fun dropped => ne dropped.1

/-- The characters that escapes are made of. -/
def isEscaping (c : Char) : Bool :=
  c == '\\' || c == 'u' || (simpleEscape? c).isSome || (hexValue? c).isSome

/-- Follows a text in quotes escape by escape. -/
@[elab_as_elim]
theorem Body.induct {P : List Char → Prop} (nil : P [])
    (plain : ∀ c cs, 0x20 ≤ c.toNat → c ≠ '"' → c ≠ '\\' → P cs → P (c :: cs))
    (escape : ∀ front cs, (∀ c ∈ front, isEscaping c = true) → (∀ s, Body s → Body (front ++ s)) →
      P cs → P (front ++ cs))
    {t : List Char} (body : Body t) : P t := by
  induction body with
  | nil => exact nil
  | plain printed quote slash _ ih => exact plain _ _ printed quote slash ih
  | @simple e cs stands _ ih =>
    refine escape ['\\', e] cs ?_ (fun s sBody => .simple stands sBody) ih
    simp [isEscaping, stands]
  | @unicode a b c d cs hex _ ih =>
    refine escape ['\\', 'u', a, b, c, d] cs ?_ (fun s sBody => .unicode hex sBody) ih
    intro x mem
    rcases List.mem_cons.mp mem with rfl | mem
    · decide
    · rcases List.mem_cons.mp mem with rfl | mem
      · decide
      · simp [isEscaping, hex x mem]

/-- A text in quotes that ends early is one, when it does not end within an escape. -/
theorem Body.of_append {s cs : List Char} {last : Char} (body : Body (s ++ cs))
    (ends : s.getLast? = some last) (mark : isEscaping last = false) : Body s := by
  have general {t : List Char} (body : Body t) :
      ∀ s, s.getLast? = some last → s ++ cs = t → Body s := by
    refine Body.induct ?_ ?_ ?_ body
    · intro s ends whole
      simp_all
    · intro c t printed quote slash ih s ends whole
      cases s with
      | nil => exact .nil
      | cons d s =>
        obtain ⟨rfl, tail⟩ := List.cons.inj whole
        cases s with
        | nil => exact .plain printed quote slash .nil
        | cons e s => exact .plain printed quote slash (ih _ (by simpa using ends) tail)
    · intro front t escaping joined ih s ends whole
      have notIn : last ∉ front := by
        intro mem
        rw [escaping last mem] at mark
        contradiction
      rcases List.append_eq_append_iff.mp whole with ⟨more, rfl, -⟩ | ⟨more, rfl, tail⟩
      · exact absurd (List.mem_append_left more (List.mem_of_getLast? ends)) notIn
      · cases more with
        | nil =>
          rw [List.append_nil] at ends
          exact absurd (List.mem_of_getLast? ends) notIn
        | cons d more =>
          refine joined _ (ih _ ?_ tail.symm)
          rwa [List.getLast?_append, Option.or_of_isSome (by simp)] at ends
  exact general body s ends rfl

theorem dropCommas_append {front : List Char} (kept : ∀ c ∈ front, c ≠ ',') (cs : List Char) :
    dropCommas (front ++ cs) = front ++ dropCommas cs := by
  induction front with
  | nil => rfl
  | cons c front ih =>
    rw [List.cons_append, dropCommas_cons_of_ne (kept c List.mem_cons_self),
      ih fun d mem => kept d (List.mem_cons_of_mem c mem), List.cons_append]

/-- Commas that are left out of a text in quotes leave a text in quotes. -/
theorem Body.exists_dropCommas {t : List Char} (body : Body t) (rest : List Char) :
    ∃ s, Body s ∧ dropCommas (t ++ rest) = s ++ dropCommas rest := by
  refine Body.induct ⟨[], .nil, rfl⟩ ?_ ?_ body
  · rintro c cs printed quote slash ⟨s, sBody, same⟩
    by_cases dropped : c = ',' ∧ Closes (cs ++ rest)
    · refine ⟨s, sBody, ?_⟩
      rw [List.cons_append, dropped.1, dropCommas_of_closes dropped.2, same]
    · refine ⟨c :: s, .plain printed quote slash sBody, ?_⟩
      rw [List.cons_append, dropCommas_of_not dropped, same, List.cons_append]
  · rintro front cs escaping whole ⟨s, sBody, same⟩
    have kept : ∀ c ∈ front, c ≠ ',' := by
      rintro c mem rfl
      exact absurd (escaping _ mem) (by decide)
    refine ⟨front ++ s, whole s sBody, ?_⟩
    rw [List.append_assoc, dropCommas_append kept, same, List.append_assoc]

theorem Filled.cons {c : Char} {cs : List Char} (filled : Filled cs) : Filled (c :: cs) := by
  obtain ⟨d, mem, solid⟩ := filled
  exact ⟨d, List.mem_cons_of_mem c mem, solid⟩

theorem filled_of_closes {cs : List Char} (closes : Closes cs) : Filled cs := by
  rcases closes with brace | bracket
  · exact ⟨_, (List.dropWhile_suffix _).subset (List.mem_of_head? brace), by decide⟩
  · exact ⟨_, (List.dropWhile_suffix _).subset (List.mem_of_head? bracket), by decide⟩

theorem Filled.dropCommas {cs : List Char} (filled : Filled cs) : Filled (dropCommas cs) := by
  induction cs with
  | nil => exact filled
  | cons c cs ih =>
    by_cases dropped : c = ',' ∧ Closes cs
    · rw [dropped.1, dropCommas_of_closes dropped.2]
      exact ih (filled_of_closes dropped.2)
    · rw [dropCommas_of_not dropped]
      obtain ⟨d, mem, solid⟩ := filled
      rcases List.mem_cons.mp mem with rfl | later
      · exact ⟨d, List.mem_cons_self, solid⟩
      · exact (ih ⟨d, later, solid⟩).cons

/-- Leaving out commas does no more damage. -/
theorem Worn.dropCommas {cs ds : List Char} (worn : Worn Body cs ds) :
    Worn Body cs (dropCommas ds) := by
  induction worn with
  | plain double single comma rest ih =>
    rw [dropCommas_of_not fun dropped => comma dropped.1 (rest.closes_iff.mp dropped.2)]
    exact .plain double single comma ih
  | @text s t cs ds body changed rest ih =>
    obtain ⟨s', changed', same⟩ := changed.exists_dropCommas ('"' :: ds)
    rw [dropCommas_cons_of_ne (by decide), same, dropCommas_cons_of_ne (by decide)]
    exact .text body changed' ih
  | @torn cs ds torn =>
    obtain ⟨s, sBody, same⟩ := torn.exists_dropCommas []
    rw [List.append_nil] at same
    rw [dropCommas_cons_of_ne (by decide), same]
    exact .torn (sBody.append .nil)
  | cut more => exact .cut more
  | longer more =>
    rw [dropCommas_cons_of_ne (by decide)]
    exact .longer more.dropCommas

theorem exists_quoteNames_cons {c : Char} (single : c ≠ '\'') (bound : Nat) (cs : List Char) :
    ∃ bound', quoteNames bound (c :: cs) = c :: quoteNames bound' cs := by
  cases bound with
  | zero => exact ⟨0, rfl⟩
  | succ bound => exact ⟨bound, by rw [quoteNames, if_neg single]⟩

theorem exists_quoteNames_append {front : List Char} (single : ∀ c ∈ front, c ≠ '\'')
    (bound : Nat) (cs : List Char) :
    ∃ bound', quoteNames bound (front ++ cs) = front ++ quoteNames bound' cs := by
  induction front generalizing bound with
  | nil => exact ⟨bound, rfl⟩
  | cons c front ih =>
    obtain ⟨next, same⟩ := exists_quoteNames_cons (single c List.mem_cons_self) bound (front ++ cs)
    obtain ⟨bound', later⟩ := ih (fun d mem => single d (List.mem_cons_of_mem c mem)) next
    exact ⟨bound', by rw [List.cons_append, same, later, List.cons_append]⟩

theorem of_quotedName_eq_some {cs name rest : List Char}
    (found : quotedName cs = some (name, rest)) : name ≠ [] ∧ cs.takeWhile isWord = name := by
  unfold quotedName at found
  split at found
  · split at found
    · simp only at found
      split at found
      · contradiction
      · next ne =>
        cases found
        exact ⟨ne, rfl⟩
    · contradiction
  · contradiction

/-- A name that is put into double quotes begins with a letter. -/
theorem exists_quoteNames_single (bound : Nat) (cs : List Char) :
    (∃ bound', quoteNames bound ('\'' :: cs) = '\'' :: quoteNames bound' cs) ∨
      ∃ c rest, isWord c = true ∧ quoteNames bound ('\'' :: cs) = '"' :: c :: rest := by
  cases bound with
  | zero => exact .inl ⟨0, rfl⟩
  | succ bound =>
    rw [quoteNames, if_pos rfl]
    cases found : quotedName cs with
    | none => exact .inl ⟨bound, rfl⟩
    | some named =>
      obtain ⟨name, rest⟩ := named
      right
      obtain ⟨ne, rfl⟩ := of_quotedName_eq_some found
      obtain ⟨c, letters, isName⟩ := List.exists_cons_of_ne_nil ne
      have word : isWord c = true :=
        List.all_eq_true.mp List.all_takeWhile c (isName ▸ List.mem_cons_self)
      exact ⟨c, _, word, by simp only [isName]; rfl⟩

/-- A character is kept, or a name is put into double quotes. -/
theorem quoteNames_cons_cases (bound : Nat) (c : Char) (cs : List Char) :
    (∃ bound', quoteNames bound (c :: cs) = c :: quoteNames bound' cs) ∨
      ∃ d more, isWord d = true ∧ quoteNames bound (c :: cs) = '"' :: d :: more := by
  by_cases single : c = '\''
  · exact single ▸ exists_quoteNames_single bound cs
  · exact .inl (exists_quoteNames_cons single bound cs)

/-- Within a text in quotes no name is put into double quotes, or the first one ends the text. -/
theorem Body.exists_quoteNames {t : List Char} (body : Body t) (bound : Nat) (rest : List Char) :
    (∃ bound', quoteNames bound (t ++ rest) = t ++ quoteNames bound' rest) ∨
      ∃ s c more, Body s ∧ isWord c = true ∧
        quoteNames bound (t ++ rest) = s ++ '"' :: c :: more := by
  revert bound
  refine Body.induct (fun bound => .inl ⟨bound, rfl⟩) ?_ ?_ body
  · intro c cs printed quote slash ih bound
    rcases quoteNames_cons_cases bound c (cs ++ rest) with ⟨next, same⟩ | ⟨d, more, word, ends⟩
    · rcases ih next with ⟨bound', later⟩ | ⟨s, d, more, sBody, word, later⟩
      · exact .inl ⟨bound', by rw [List.cons_append, same, later, List.cons_append]⟩
      · exact .inr ⟨c :: s, d, more, .plain printed quote slash sBody, word,
          by rw [List.cons_append, same, later, List.cons_append]⟩
    · exact .inr ⟨[], d, more, .nil, word, ends⟩
  · intro front cs escaping whole ih bound
    have kept : ∀ c ∈ front, c ≠ '\'' := by
      rintro c mem rfl
      exact absurd (escaping _ mem) (by decide)
    obtain ⟨next, same⟩ := exists_quoteNames_append kept bound (cs ++ rest)
    rcases ih next with ⟨bound', later⟩ | ⟨s, d, more, sBody, word, later⟩
    · exact .inl ⟨bound', by rw [List.append_assoc, same, later, List.append_assoc]⟩
    · exact .inr ⟨front ++ s, d, more, whole s sBody, word,
        by rw [List.append_assoc, same, later, List.append_assoc]⟩

theorem Filled.quoteNames {cs : List Char} (filled : Filled cs) (bound : Nat) :
    Filled (quoteNames bound cs) := by
  induction cs generalizing bound with
  | nil =>
    obtain ⟨d, mem, -⟩ := filled
    contradiction
  | cons c cs ih =>
    rcases quoteNames_cons_cases bound c cs with ⟨next, same⟩ | ⟨d, more, -, same⟩
    · rw [same]
      obtain ⟨d, mem, solid⟩ := filled
      rcases List.mem_cons.mp mem with rfl | later
      · exact ⟨d, List.mem_cons_self, solid⟩
      · exact (ih ⟨d, later, solid⟩ next).cons
    · exact same ▸ ⟨'"', List.mem_cons_self, by decide⟩

/-- Putting names into double quotes tears a text in quotes in front of a letter. -/
theorem Worn.quoteNames {cs ds : List Char} (worn : Worn Body cs ds) (bound : Nat) :
    Worn Burst cs (quoteNames bound ds) := by
  induction worn generalizing bound with
  | plain double single comma rest ih =>
    obtain ⟨next, same⟩ := exists_quoteNames_cons single bound _
    exact same ▸ .plain double single comma (ih next)
  | @text s t cs ds body changed rest ih =>
    obtain ⟨next, same⟩ := exists_quoteNames_cons (show '"' ≠ '\'' by decide) bound (s ++ '"' :: ds)
    rw [same]
    rcases changed.exists_quoteNames next ('"' :: ds) with ⟨bound', kept⟩ | ⟨s, c, more, ends⟩
    · obtain ⟨last, closed⟩ := exists_quoteNames_cons (show '"' ≠ '\'' by decide) bound' ds
      rw [kept, closed]
      exact .text body changed (ih last)
    · exact .torn (.inr ⟨s, c, more, ends⟩)
  | @torn cs ds torn =>
    obtain ⟨next, same⟩ := exists_quoteNames_cons (show '"' ≠ '\'' by decide) bound ds
    rw [same]
    have cases := torn.exists_quoteNames next []
    rw [List.append_nil] at cases
    rcases cases with ⟨bound', kept⟩ | ⟨s, c, more, ends⟩
    · have nothing : Json.quoteNames bound' [] = [] := by
        cases bound' <;> rfl
      rw [kept, nothing, List.append_nil]
      exact .torn (.inl torn)
    · exact .torn (.inr ⟨s, c, more, ends⟩)
  | cut more =>
    obtain ⟨next, same⟩ := exists_quoteNames_cons (show '}' ≠ '\'' by decide) bound []
    have nothing : Json.quoteNames next [] = [] := by
      cases next <;> rfl
    rw [same, nothing]
    exact .cut more
  | @longer ds more =>
    obtain ⟨next, same⟩ := exists_quoteNames_cons (show '}' ≠ '\'' by decide) bound ds
    exact same ▸ .longer (more.quoteNames next)

end FactModel.Json
