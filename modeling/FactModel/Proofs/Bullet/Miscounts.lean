import FactModel.Bullet.Classify
import FactModel.Proofs.Number.Counts

/-!
# Bullets on which reading fails

A bullet is not classified only when a pattern reads a count in digits that denote no number and all
patterns in front of it decline.  Only two readings have a count in them: the one of a least number
of rows, and the one of a subtype on such a condition.
-/

namespace FactModel.Bullet

open FactModel.Text

/-- The count that is written in a reading. -/
def Reading.count? : Reading → Option (List Char)
  | .minCount _ count _ => count
  | .isA _ _ (some written) =>
    ((stripPhrase "at least ".toList (squeeze written)).bind countAndNoun).map (·.1)
  | _ => none

namespace Context

variable {ctx : Context} {e : CountError}

theorem bind_eq_error_iff {α β : Type} {x : Except CountError α} {f : α → β} :
    (x >>= fun a => pure (f a)) = .error e ↔ x = .error e := by
  cases x <;> simp [bind, Except.bind, pure, Except.pure]

theorem condition_eq_error_iff {written : List Char} :
    ctx.condition written = .error e ↔
      ∃ count, ((stripPhrase "at least ".toList written).bind Reading.countAndNoun).map (·.1) =
          some count ∧ Count.read count = .error e := by
  unfold condition
  split
  · next count target counted =>
    rw [counted]
    exact bind_eq_error_iff.trans (by simp)
  · next uncounted =>
    rw [uncounted]
    split
    · simp
    · split
      · simp only
        split <;> simp
      · simp

/-- Resolving fails on the count of a reading only. -/
theorem resolve_eq_error_iff {reading : Reading} :
    ctx.resolve reading = .error e ↔
      ∃ count, reading.count? = some count ∧ Count.read count = .error e := by
  cases reading with
  | minCount subject count target =>
    cases count with
    | none => simp [resolve, Reading.count?]
    | some count => exact bind_eq_error_iff.trans (by simp [Reading.count?])
  | isA subject base condition =>
    cases condition with
    | none =>
      simp only [resolve, Reading.count?]
      split <;> simp
    | some written =>
      exact bind_eq_error_iff.trans condition_eq_error_iff
  | identifiedBy subject object =>
    simp only [resolve, Reading.count?]
    split <;> simp
  | inPast subject attr | like subject attr pattern | notNull subject attr
  | hasMany subject target | hasExactlyOne subject target | has subject object =>
    simp [resolve, Reading.count?]

/-- A count is met that is no number, by one of the patterns that are tried. -/
def Miscounts (ctx : Context) (e : CountError) : Prop :=
  ∃ front pattern back reading count, Reading.patterns = front ++ pattern :: back ∧
    (∀ other ∈ front, ∀ declined, other ctx.text.toList = some declined →
      ctx.resolve declined = .ok none) ∧
    pattern ctx.text.toList = some reading ∧ reading.count? = some count ∧ Count.Misread count e

theorem firstFact_cons_of_declined {body : List Char} {pattern : List Char → Option Reading}
    {patterns : List (List Char → Option Reading)}
    (declined : ∀ reading, pattern body = some reading → ctx.resolve reading = .ok none) :
    ctx.firstFact body (pattern :: patterns) = ctx.firstFact body patterns := by
  rw [firstFact]
  cases read : pattern body with
  | none => rfl
  | some reading => simp only [declined reading read]

theorem firstFact_eq_error_iff {body : List Char}
    {patterns : List (List Char → Option Reading)} :
    ctx.firstFact body patterns = .error e ↔
      ∃ front pattern back reading, patterns = front ++ pattern :: back ∧
        (∀ other ∈ front, ∀ declined, other body = some declined →
          ctx.resolve declined = .ok none) ∧
        pattern body = some reading ∧ ctx.resolve reading = .error e := by
  induction patterns with
  | nil => simp [firstFact]
  | cons first rest ih =>
    by_cases declined : ∀ reading, first body = some reading → ctx.resolve reading = .ok none
    · rw [firstFact_cons_of_declined declined, ih]
      constructor
      · rintro ⟨front, pattern, back, reading, rfl, before, read, failed⟩
        refine ⟨first :: front, pattern, back, reading, rfl, ?_, read, failed⟩
        rintro other (- | ⟨-, mem⟩)
        · exact declined
        · exact before other mem
      · rintro ⟨front, pattern, back, reading, cut, before, read, failed⟩
        cases front with
        | nil =>
          cases cut
          cases (declined reading read).symm.trans failed
        | cons _ front =>
          cases cut
          exact ⟨front, pattern, back, reading, rfl,
            fun other mem => before other (List.mem_cons_of_mem _ mem), read, failed⟩
    · obtain ⟨reading, read, answers⟩ : ∃ reading, first body = some reading ∧
          ctx.resolve reading ≠ .ok none := by simpa using declined
      have here : ctx.firstFact body (first :: rest) = ctx.resolve reading := by
        simp only [firstFact, read]
      rw [here]
      constructor
      · intro failed
        exact ⟨[], first, rest, reading, rfl, by simp, read, failed⟩
      · rintro ⟨front, pattern, back, other, cut, before, otherRead, failed⟩
        cases front with
        | nil =>
          cases cut
          cases read.symm.trans otherRead
          exact failed
        | cons _ front =>
          cases cut
          exact absurd (before first List.mem_cons_self reading read) answers

/-- A bullet is classified unless it meets a count that is no number. -/
theorem classify_eq_error_iff : ctx.classify = .error e ↔ ctx.Miscounts e := by
  rw [classify, firstFact_eq_error_iff]
  constructor
  · rintro ⟨front, pattern, back, reading, cut, before, read, failed⟩
    obtain ⟨count, written, misread⟩ := resolve_eq_error_iff.mp failed
    exact ⟨front, pattern, back, reading, count, cut, before, read, written,
      Count.read_eq_error_iff.mp misread⟩
  · rintro ⟨front, pattern, back, reading, count, cut, before, read, written, misread⟩
    exact ⟨front, pattern, back, reading, cut, before, read,
      resolve_eq_error_iff.mpr ⟨count, written, Count.read_eq_error_iff.mpr misread⟩⟩

end Context

end FactModel.Bullet
