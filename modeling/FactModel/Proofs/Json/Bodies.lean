import FactModel.Json.Reader
import FactModel.Proofs.Steps

/-!
# What stands between quotes

A text is read up to its closing quote just when what stands in front of that quote is made of
characters that stand for themselves and of escapes.  Of a text that is cut off the reader finds the
fault.
-/

namespace FactModel.Json

/-- A reading that ends with a fault. -/
def Fails {α : Type} (read : Except ReadFailure α) : Prop :=
  ∃ fault remaining, read = .error (.fault fault remaining)

theorem fails_failAt {α : Type} (fault : Fault) (rest : List Char) :
    Fails (failAt fault rest : Except ReadFailure α) :=
  ⟨fault, rest.length, rfl⟩

/-- What follows a fault does not change it. -/
theorem Fails.bind {α β : Type} {read : Except ReadFailure α} (fails : Fails read)
    (next : α → Except ReadFailure β) : Fails (read >>= next) := by
  obtain ⟨fault, remaining, rfl⟩ := fails
  exact ⟨fault, remaining, rfl⟩

/-- A reading that is not given up because of a number with too many digits. -/
def Uncounted {α : Type} (read : Except ReadFailure α) : Prop :=
  ∀ error, read ≠ .error (.count error)

theorem Uncounted.ok_or_fails {α : Type} {read : Except ReadFailure α}
    (uncounted : Uncounted read) : (∃ a, read = .ok a) ∨ Fails read := by
  match read with
  | .ok a => exact .inl ⟨a, rfl⟩
  | .error (.fault fault remaining) => exact .inr ⟨fault, remaining, rfl⟩
  | .error (.count error) => exact absurd rfl (uncounted error)

/-! ## Escapes -/

/-- Characters that are hexadecimal digits. -/
def Hex (cs : List Char) : Prop :=
  ∀ c ∈ cs, (hexValue? c).isSome = true

/-- What may stand between the quotes of a text. -/
inductive Body : List Char → Prop where
  | nil : Body []
  | plain {c : Char} {cs : List Char} (printed : 0x20 ≤ c.toNat) (quote : c ≠ '"')
      (slash : c ≠ '\\') (rest : Body cs) : Body (c :: cs)
  | simple {e : Char} {cs : List Char} (stands : (simpleEscape? e).isSome = true)
      (rest : Body cs) : Body ('\\' :: e :: cs)
  | unicode {a b c d : Char} {cs : List Char} (hex : Hex [a, b, c, d]) (rest : Body cs) :
    Body ('\\' :: 'u' :: a :: b :: c :: d :: cs)

theorem Body.append {s t : List Char} (first : Body s) (second : Body t) : Body (s ++ t) := by
  induction first with
  | nil => exact second
  | plain printed quote slash _ ih => exact .plain printed quote slash ih
  | simple stands _ ih => exact .simple stands ih
  | unicode hex _ ih => exact .unicode hex ih

/-- Behind the start of a unicode escape a body goes on with four digits. -/
theorem Body.exists_hex {cs : List Char} (body : Body ('\\' :: 'u' :: cs)) :
    ∃ a b c d rest, Hex [a, b, c, d] ∧ cs = a :: b :: c :: d :: rest ∧ Body rest := by
  cases body with
  | plain printed quote slash => exact absurd rfl slash
  | simple stands => exact absurd stands (by decide)
  | unicode hex rest => exact ⟨_, _, _, _, _, hex, rfl, rest⟩

theorem exists_hex_of_hexUnit? {cs rest : List Char} {n : Nat}
    (found : hexUnit? cs = some (n, rest)) :
    ∃ a b c d, Hex [a, b, c, d] ∧ cs = a :: b :: c :: d :: rest := by
  match cs with
  | a :: b :: c :: d :: next :: more =>
    simp only [hexUnit?, Option.bind_eq_bind, Option.bind_eq_some_iff, Option.pure_def,
      Option.some.injEq, Prod.mk.injEq] at found
    obtain ⟨_, aHex, _, bHex, _, cHex, _, dHex, -, rfl⟩ := found
    exact ⟨a, b, c, d, by simp [Hex, aHex, bHex, cHex, dHex], rfl⟩
  | [] | [_] | [_, _] | [_, _, _] | [_, _, _, _] => simp [hexUnit?] at found

theorem exists_hexUnit? {a b c d : Char} (hex : Hex [a, b, c, d]) {rest : List Char}
    (more : rest ≠ []) : ∃ n, hexUnit? (a :: b :: c :: d :: rest) = some (n, rest) := by
  obtain ⟨next, rest, rfl⟩ := List.exists_cons_of_ne_nil more
  simp only [Hex, List.mem_cons, List.not_mem_nil, or_false, forall_eq_or_imp, forall_eq,
    Option.isSome_iff_exists] at hex
  obtain ⟨⟨_, aHex⟩, ⟨_, bHex⟩, ⟨_, cHex⟩, ⟨_, dHex⟩⟩ := hex
  exact ⟨_, by simp only [hexUnit?, aHex, bHex, cHex, dHex]; rfl⟩

/-- A unicode escape is one group of digits, or two that are read as one. -/
theorem of_unicodeEscape_eq_ok {cs rest : List Char} {x : Char}
    (read : unicodeEscape cs = .ok (x, rest)) :
    ∃ a b c d more, Hex [a, b, c, d] ∧ cs = a :: b :: c :: d :: more ∧
      (rest = more ∨ ∃ a b c d, Hex [a, b, c, d] ∧
        more = '\\' :: 'u' :: a :: b :: c :: d :: rest) := by
  unfold unicodeEscape at read
  split at read
  · contradiction
  · next high more found =>
    obtain ⟨a, b, c, d, hex, whole⟩ := exists_hex_of_hexUnit? found
    refine ⟨a, b, c, d, more, hex, whole, ?_⟩
    split at read
    · next tail =>
      split at read
      · split at read
        · contradiction
        · next low after second =>
          obtain ⟨a', b', c', d', hex', rfl⟩ := exists_hex_of_hexUnit? second
          split at read <;>
            simp only [Except.ok.injEq, Prod.mk.injEq] at read
          · exact .inr ⟨a', b', c', d', hex', by rw [read.2]⟩
          · exact .inl read.2.symm
      · cases read
        exact .inl rfl
    · cases read
      exact .inl rfl

/-- A unicode escape within a body is read, together with the next one or by itself. -/
theorem exists_unicodeEscape {a b c d : Char} (hex : Hex [a, b, c, d]) {t : List Char}
    (body : Body t) (rest : List Char) :
    ∃ x s, unicodeEscape (a :: b :: c :: d :: (t ++ '"' :: rest)) = .ok (x, s ++ '"' :: rest) ∧
      Body s ∧ s.length ≤ t.length := by
  obtain ⟨high, first⟩ := exists_hexUnit? hex (show t ++ '"' :: rest ≠ [] by simp)
  unfold unicodeEscape
  simp only [first]
  split
  · next tail whole =>
    have isBody : ∃ cs, t = '\\' :: 'u' :: cs ∧ tail = cs ++ '"' :: rest := by
      match t with
      | [] => simp at whole
      | [x] => simp at whole
      | x :: y :: cs => exact ⟨cs, by simp_all⟩
    obtain ⟨cs, rfl, rfl⟩ := isBody
    obtain ⟨a', b', c', d', more, hex', rfl, moreBody⟩ := body.exists_hex
    obtain ⟨low, second⟩ := exists_hexUnit? hex' (show more ++ '"' :: rest ≠ [] by simp)
    split
    · simp only [List.cons_append, second]
      split
      · exact ⟨_, more, rfl, moreBody, by simp only [List.length_cons]; omega⟩
      · exact ⟨_, _, rfl, body, Nat.le_refl _⟩
    · exact ⟨_, _, rfl, body, Nat.le_refl _⟩
  · exact ⟨_, _, rfl, body, Nat.le_refl _⟩

theorem uncounted_unicodeEscape (cs : List Char) : Uncounted (unicodeEscape cs) := by
  unfold unicodeEscape
  repeat' split
  all_goals exact nofun

/-! ## Bodies -/

variable {opened bound : Nat}

theorem textBody_plain {c : Char} {cs : List Char} (printed : 0x20 ≤ c.toNat) (quote : c ≠ '"')
    (slash : c ≠ '\\') : textBody opened (bound + 1) (c :: cs) =
      textBody opened bound cs >>= fun read => .ok (c :: read.1, read.2) := by
  rw [textBody]
  · rw [if_neg (by omega)]
    rfl
  · exact quote
  · exact fun isSlash => absurd isSlash slash
  · exact fun _ isSlash => absurd isSlash slash
  · exact fun _ _ isSlash => absurd isSlash slash

theorem textBody_simple {e x : Char} (stands : simpleEscape? e = some x) {cs : List Char} :
    textBody opened (bound + 1) ('\\' :: e :: cs) =
      textBody opened bound cs >>= fun read => .ok (x :: read.1, read.2) := by
  rw [textBody, stands]
  · rfl
  · rintro rfl
    cases stands

theorem textBody_unicode (cs : List Char) :
    textBody opened (bound + 1) ('\\' :: 'u' :: cs) =
      unicodeEscape cs >>= fun escape =>
        textBody opened bound escape.2 >>= fun read => .ok (escape.1 :: read.1, read.2) := by
  rw [textBody]
  rfl

/-- What is read as a text is a body and the quote behind it. -/
theorem exists_body_of_textBody {cs s rest : List Char}
    (read : textBody opened bound cs = .ok (s, rest)) : ∃ t, Body t ∧ cs = t ++ '"' :: rest := by
  induction bound generalizing cs s with
  | zero =>
    rw [textBody_zero] at read
    cases read
  | succ bound ih =>
    unfold textBody at read
    split at read
    · contradiction
    · cases read
      exact ⟨[], .nil, rfl⟩
    · contradiction
    · next more =>
      obtain ⟨⟨x, after⟩, escape, read⟩ := of_bind_eq_ok read
      obtain ⟨⟨s', rest'⟩, later, read⟩ := of_bind_eq_ok read
      cases read
      obtain ⟨t, body, rfl⟩ := ih later
      obtain ⟨a, b, c, d, more', hex, rfl, rfl | ⟨a', b', c', d', hex', rfl⟩⟩ :=
        of_unicodeEscape_eq_ok escape
      · exact ⟨_, .unicode hex body, rfl⟩
      · exact ⟨_, .unicode hex (.unicode hex' body), rfl⟩
    · next e more other =>
      split at read
      · contradiction
      · next x stands =>
        obtain ⟨⟨s', rest'⟩, later, read⟩ := of_bind_eq_ok read
        cases read
        obtain ⟨t, body, rfl⟩ := ih later
        exact ⟨_, .simple (by simp [stands]) body, rfl⟩
    · next c more notQuote notLast notUnicode notEscape =>
      split at read
      · contradiction
      · next printed =>
        obtain ⟨⟨s', rest'⟩, later, read⟩ := of_bind_eq_ok read
        cases read
        obtain ⟨t, body, rfl⟩ := ih later
        have slash : c ≠ '\\' := by
          rintro rfl
          cases t with
          | nil => exact notEscape '"' rest rfl rfl
          | cons e t => exact notEscape e (t ++ '"' :: rest) rfl rfl
        exact ⟨_, .plain (by omega) notQuote slash body, rfl⟩

/-- A body and the quote behind it are read as a text. -/
theorem exists_textBody {t : List Char} (body : Body t) (enough : t.length < bound)
    (rest : List Char) : ∃ s, textBody opened bound (t ++ '"' :: rest) = .ok (s, rest) := by
  induction bound generalizing t with
  | zero => omega
  | succ bound ih =>
    cases body with
    | nil => exact ⟨[], by simp [textBody]⟩
    | plain printed quote slash body =>
      obtain ⟨s, read⟩ := ih body (by simpa using enough)
      exact ⟨_, by rw [List.cons_append, textBody_plain printed quote slash, read]; rfl⟩
    | simple stands body =>
      obtain ⟨x, isChar⟩ := Option.isSome_iff_exists.mp stands
      obtain ⟨s, read⟩ := ih body (by simp at enough; omega)
      exact ⟨_, by rw [List.cons_append, List.cons_append, textBody_simple isChar, read]; rfl⟩
    | unicode hex body =>
      obtain ⟨x, t, escape, tBody, shorter⟩ := exists_unicodeEscape hex body rest
      obtain ⟨s, read⟩ := ih tBody (by simp at enough; omega)
      refine ⟨x :: s, ?_⟩
      simp only [List.cons_append, textBody_unicode, escape, bind, Except.bind, read]

/-- A body that nothing follows is not read. -/
theorem fails_textBody {t : List Char} (body : Body t) : Fails (textBody opened bound t) := by
  induction bound generalizing t with
  | zero => exact ⟨_, _, textBody_zero opened t⟩
  | succ bound ih =>
    cases body with
    | nil => exact ⟨_, _, textBody_nil opened bound⟩
    | plain printed quote slash body =>
      rw [textBody_plain printed quote slash]
      exact (ih body).bind _
    | simple stands body =>
      obtain ⟨x, isChar⟩ := Option.isSome_iff_exists.mp stands
      rw [textBody_simple isChar]
      exact (ih body).bind _
    | @unicode a b c d cs hex body =>
      rw [textBody_unicode]
      have uncounted := uncounted_unicodeEscape (a :: b :: c :: d :: cs)
      rcases uncounted.ok_or_fails with ⟨⟨x, rest⟩, escape⟩ | fails
      · rw [escape]
        refine Fails.bind (ih ?_) _
        obtain ⟨a', b', c', d', more, -, whole, isRest⟩ := of_unicodeEscape_eq_ok escape
        cases whole
        rcases isRest with rfl | ⟨a', b', c', d', -, rfl⟩
        · exact body
        · obtain ⟨_, _, _, _, _, -, whole, restBody⟩ := body.exists_hex
          cases whole
          exact restBody
      · exact fails.bind _

/-! ## Texts -/

theorem exists_readText {t : List Char} (body : Body t) (rest : List Char) :
    ∃ s, readText (t ++ '"' :: rest) = .ok (s, rest) := by
  have enough : t.length < (t ++ '"' :: rest).length + 1 := by
    rw [List.length_append]
    omega
  obtain ⟨s, read⟩ := exists_textBody body enough rest
  exact ⟨String.ofList s, by rw [readText, read]; rfl⟩

theorem exists_body_of_readText {cs rest : List Char} {s : String}
    (read : readText cs = .ok (s, rest)) : ∃ t, Body t ∧ cs = t ++ '"' :: rest := by
  obtain ⟨⟨body, rest'⟩, first, read⟩ := of_bind_eq_ok read
  cases read
  exact exists_body_of_textBody first

theorem fails_readText {t : List Char} (body : Body t) : Fails (readText t) :=
  (fails_textBody body).bind _

end FactModel.Json
