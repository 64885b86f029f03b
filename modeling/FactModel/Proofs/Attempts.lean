import FactModel.Retry
import Mathlib.Data.Rat.Defs
import Mathlib.Order.Lattice.Nat
import Mathlib.Tactic.Ring

/-!
# The course of a run of attempts

A run of attempts ends with the first call whose outcome allows no other, or with the last call of
the policy if that comes first.  Up to there calls and pauses take turns, every pause is twice as
long as the one before, and the run comes to what its last call came to.  Only where a pause on the
way cannot be computed does the run end too early, with the call in front of that pause.

Time is measured in rational numbers here, in which doubling is exact.  How many pauses can be
computed is left open, so that this may be as many as there are powers of two among floats.
-/

namespace FactModel

namespace RetryRun

variable {τ α : Type}

/-- Calls and pauses in turns, from a call to a call. -/
inductive TakesTurns : List (RetryEvent τ) → Prop
  | call : TakesTurns [.call]
  | pause {events : List (RetryEvent τ)} (failure : CallFailure) (seconds : τ) :
      TakesTurns events → TakesTurns (.call :: .pause failure seconds :: events)

/-- A run of `k` calls with these outcomes.  Calls and pauses take turns; the pauses are for the
failures of all calls but the last, and last the delay, twice the delay, four times the delay and so
on. -/
structure Paced (run : RetryRun ℚ α) (delay : ℚ) (outcome : ℕ → Except CallFailure α) (k : ℕ) :
    Prop where
  calls : run.calls = k
  turns : TakesTurns run.events
  pauses : (run.pauses.map fun (failure, seconds) => (Except.error failure, seconds)) =
    (List.range (k - 1)).map fun i => (outcome i, 2 ^ i * delay)

/-- A run of `k` calls that comes to what the last of them came to. -/
structure Completes (run : RetryRun ℚ α) (delay : ℚ) (outcome : ℕ → Except CallFailure α) (k : ℕ) :
    Prop extends Paced run delay outcome k where
  result : run.result = (outcome (k - 1)).mapError .failed

end RetryRun

namespace RetryPolicy

open RetryRun

variable {τ α : Type}

/-- Whether an outcome is a failure that allows another call. -/
def retries (p : RetryPolicy τ) : Except CallFailure α → Bool
  | .ok _ => false
  | .error failure => p.allows failure

/-- The calls, counted from one, with which a run may end: the last call of the policy, and every
one whose outcome is no failure that allows another. -/
def endings (p : RetryPolicy τ) (outcome : ℕ → Except CallFailure α) : Set ℕ :=
  {k | (k : ℤ) = p.attempts ∨ ∃ i, k = i + 1 ∧ p.retries (outcome i) = false}

theorem of_retries {p : RetryPolicy τ} {o : Except CallFailure α} (again : p.retries o = true) :
    ∃ failure, o = .error failure ∧ p.allows failure = true := by
  cases o with
  | ok value => cases again
  | error failure => exact ⟨failure, rfl, again⟩

theorem exists_failures {p : RetryPolicy τ} {outcome : ℕ → Except CallFailure α} {n : ℕ}
    (again : ∀ i < n, p.retries (outcome i) = true) :
    ∃ failures : List CallFailure, failures.length = n ∧
      (List.range n).map outcome = failures.map .error ∧
      ∀ failure ∈ failures, p.allows failure = true := by
  induction n with
  | zero => exact ⟨[], rfl, rfl, by simp⟩
  | succ n ih =>
    obtain ⟨failures, length, told, allowed⟩ := ih fun i less => again i (by omega)
    obtain ⟨failure, fails, allows⟩ := of_retries (again n (by omega))
    refine ⟨failures ++ [failure], by simp [length], ?_, ?_⟩
    · rw [List.range_succ, List.map_append, List.map_append, told, List.map_singleton, fails,
        List.map_singleton]
    · intro other mem
      rcases List.mem_append.mp mem with earlier | last
      · exact allowed other earlier
      · rwa [List.mem_singleton.mp last]

theorem pause_eq (p : RetryPolicy ℚ) (call : ℕ) : p.pause call = 2 ^ call * p.delay := by
  induction call with
  | zero => simp [pause]
  | succ call ih =>
    rw [pause, ih]
    ring

section Course

variable [Add τ] {p : RetryPolicy τ} {outcome : ℕ → Except CallFailure α}

/-- Calls that failed, each with the pause behind it, when so many calls were made before. -/
def retried (p : RetryPolicy τ) : List CallFailure → (made : ℕ) → List (RetryEvent τ)
  | [], _ => []
  | failure :: later, made =>
    .call :: .pause failure (p.pause made) :: p.retried later (made + 1)

theorem calls_retried (failures : List CallFailure) (made : ℕ) (rest : List (RetryEvent τ))
    (result : Except RetryError α) :
    calls ⟨p.retried failures made ++ rest, result⟩ = failures.length + calls ⟨rest, result⟩ := by
  induction failures generalizing made with
  | nil => simp [retried]
  | cons failure later ih =>
    have fewer := ih (made + 1)
    simp only [calls, retried, List.cons_append, List.countP_cons, List.length_cons] at fewer ⊢
    simp only [if_true, Bool.false_eq_true, if_false, fewer]
    omega

theorem pauses_retried (failures : List CallFailure) (made : ℕ) (rest : List (RetryEvent τ))
    (result : Except RetryError α) :
    pauses ⟨p.retried failures made ++ rest, result⟩ =
      ((failures.zipIdx made).map fun (failure, call) => (failure, p.pause call)) ++
        pauses ⟨rest, result⟩ := by
  induction failures generalizing made with
  | nil => rfl
  | cons failure later ih =>
    have fewer := ih (made + 1)
    simp only [pauses, retried, List.cons_append, List.zipIdx_cons, List.map_cons] at fewer ⊢
    simp only [List.filterMap_cons, fewer]

theorem takesTurns_retried (failures : List CallFailure) (made : ℕ) {rest : List (RetryEvent τ)}
    (turns : TakesTurns rest) : TakesTurns (p.retried failures made ++ rest) := by
  induction failures generalizing made with
  | nil => exact turns
  | cons failure later ih => exact .pause failure (p.pause made) (ih (made + 1))

/-- The run goes on after a failure that allows another call, when one is left and the pause can be
computed. -/
theorem runFrom_of_allows {left made : ℕ} {failure : CallFailure}
    (fails : outcome made = .error failure) (allows : p.allows failure = true) (more : left ≠ 0)
    (can : p.canPause made = true) :
    p.runFrom outcome (left + 1) made =
      { p.runFrom outcome left (made + 1) with
        events := .call :: .pause failure (p.pause made) ::
          (p.runFrom outcome left (made + 1)).events } := by
  simp only [runFrom, fails, allows, more, can, ne_eq, not_false_eq_true, and_self, if_true]

/-- The run ends with a call whose outcome allows no other, and with the last call that is left. -/
theorem runFrom_of_last {left made : ℕ} (last : p.retries (outcome made) = false ∨ left = 0) :
    p.runFrom outcome (left + 1) made =
      { events := [.call], result := (outcome made).mapError .failed } := by
  cases o : outcome made with
  | ok value => simp only [runFrom, o, Except.mapError]
  | error failure =>
    have ends : ¬(p.allows failure = true ∧ left ≠ 0) := by
      rw [o] at last
      rintro ⟨allows, more⟩
      rcases last with refused | none
      · exact absurd (allows.symm.trans refused) (by decide)
      · exact more none
    simp only [runFrom, o, if_neg ends, Except.mapError]

/-- The run ends with a call behind which the pause cannot be computed. -/
theorem runFrom_of_tooLong {left made : ℕ} (again : p.retries (outcome made) = true)
    (more : left ≠ 0) (cannot : p.canPause made = false) :
    p.runFrom outcome (left + 1) made = { events := [.call], result := .error .tooLong } := by
  obtain ⟨failure, fails, allows⟩ := of_retries again
  simp [runFrom, fails, allows, more, cannot]

/-- As long as the calls fail and another is allowed, they are made, each with its pause. -/
theorem runFrom_retried {failures : List CallFailure} {left made : ℕ}
    (told : (List.range' made failures.length).map outcome = failures.map .error)
    (allowed : ∀ failure ∈ failures, p.allows failure = true)
    (within : ∀ l ∈ p.pauseLimit, made + failures.length ≤ l) :
    p.runFrom outcome (failures.length + (left + 1)) made =
      { p.runFrom outcome (left + 1) (made + failures.length) with
        events := p.retried failures made ++
          (p.runFrom outcome (left + 1) (made + failures.length)).events } := by
  induction failures generalizing made with
  | nil => rw [List.length_nil, Nat.zero_add]; rfl
  | cons failure later ih =>
    rw [List.length_cons] at told within
    rw [List.range'_succ, List.map_cons, List.map_cons] at told
    obtain ⟨fails, toldLater⟩ := List.cons.inj told
    have can : p.canPause made = true := by
      rw [canPause, Option.all_eq_true]
      intro l limit
      have := within l limit
      exact decide_eq_true (by omega)
    have rest := ih toldLater (fun other mem => allowed other (List.mem_cons_of_mem _ mem))
      fun l limit => by have := within l limit; omega
    have behind : made + 1 + later.length = made + (later.length + 1) := by omega
    rw [List.length_cons, Nat.add_right_comm,
      runFrom_of_allows fails (allowed failure List.mem_cons_self) (by omega) can, rest, behind]
    rfl

end Course

/-- A run makes so many calls and one more when those fail and allow another, their pauses can be
computed, and the run is at its end after them. -/
theorem paced_of_last {p : RetryPolicy ℚ} {outcome : ℕ → Except CallFailure α} {n left : ℕ}
    {result : Except RetryError α} (again : ∀ i < n, p.retries (outcome i) = true)
    (within : ∀ l ∈ p.pauseLimit, n ≤ l) (attempts : p.attempts.toNat = n + (left + 1))
    (last : p.runFrom outcome (left + 1) n = { events := [.call], result }) :
    (p.run outcome).Paced p.delay outcome (n + 1) ∧ (p.run outcome).result = result := by
  obtain ⟨failures, rfl, told, allowed⟩ := exists_failures again
  have course : p.run outcome = { events := p.retried failures 0 ++ [.call], result } := by
    rw [List.range_eq_range'] at told
    rw [run, attempts, runFrom_retried told allowed (by simpa using within), Nat.zero_add, last]
  rw [course]
  refine ⟨⟨?_, takesTurns_retried failures 0 .call, ?_⟩, rfl⟩
  · rw [calls_retried]
    rfl
  · rw [pauses_retried, Nat.add_sub_cancel]
    refine List.ext_getElem (by simp [pauses]) fun i inPauses inRange => ?_
    have less : i < failures.length := by simpa using inRange
    have failed : outcome i = .error failures[i] := by
      have at_i := congrArg (·[i]?) told
      simpa [less] using at_i
    simp [pauses, failed, pause_eq]

/-- Where calls are allowed, the last one is among those with which a run may end, so there is a
first of these. -/
theorem exists_isLeast_endings {p : RetryPolicy τ} (some : 1 ≤ p.attempts)
    (outcome : ℕ → Except CallFailure α) :
    ∃ k, IsLeast (p.endings outcome) k ∧ 1 ≤ k ∧ k ≤ p.attempts.toNat := by
  have mem : p.attempts.toNat ∈ p.endings outcome := .inl (by omega)
  have least : IsLeast (p.endings outcome) (sInf (p.endings outcome)) :=
    ⟨Nat.sInf_mem ⟨_, mem⟩, fun _ => Nat.sInf_le⟩
  refine ⟨_, least, ?_, least.2 mem⟩
  rcases least.1 with last | ⟨i, next, -⟩
  · omega
  · omega

theorem retries_of_isLeast {p : RetryPolicy τ} {outcome : ℕ → Except CallFailure α} {k i : ℕ}
    (least : IsLeast (p.endings outcome) k) (before : i + 1 < k) :
    p.retries (outcome i) = true := by
  by_contra ends
  have := least.2 (.inr ⟨i, rfl, by simpa using ends⟩)
  omega

/-- A run comes to its end with the first call that allows no other, or with the last one of the
policy, as long as all pauses in front of that call can be computed. -/
theorem completes_of_isLeast {p : RetryPolicy ℚ} {outcome : ℕ → Except CallFailure α} {k : ℕ}
    (least : IsLeast (p.endings outcome) k) (positive : 1 ≤ k) (within : k ≤ p.attempts.toNat)
    (unlimited : ∀ l ∈ p.pauseLimit, k ≤ l + 1) : (p.run outcome).Completes p.delay outcome k := by
  obtain ⟨n, rfl⟩ : ∃ n, k = n + 1 := ⟨k - 1, by omega⟩
  obtain ⟨left, attempts⟩ : ∃ left, p.attempts.toNat = n + (left + 1) :=
    ⟨p.attempts.toNat - n - 1, by omega⟩
  have last : p.retries (outcome n) = false ∨ left = 0 := by
    rcases least.1 with last | ⟨i, same, ends⟩
    · exact .inr (by omega)
    · obtain rfl : n = i := by omega
      exact .inl ends
  have again : ∀ i < n, p.retries (outcome i) = true :=
    fun i less => retries_of_isLeast least (by omega)
  have computed : ∀ l ∈ p.pauseLimit, n ≤ l :=
    fun l limit => Nat.le_of_succ_le_succ (unlimited l limit)
  have course := paced_of_last again computed attempts (runFrom_of_last last)
  exact { course.1 with result := course.2 }

/-- A limit to the pauses ends the run with the call behind the last of them. -/
theorem paced_of_limit {p : RetryPolicy ℚ} {outcome : ℕ → Except CallFailure α} {k l : ℕ}
    (least : IsLeast (p.endings outcome) k) (within : k ≤ p.attempts.toNat)
    (limit : p.pauseLimit = some l) (early : l + 1 < k) :
    (p.run outcome).Paced p.delay outcome (l + 1) ∧ (p.run outcome).result = .error .tooLong := by
  obtain ⟨left, attempts⟩ : ∃ left, p.attempts.toNat = l + (left + 1) :=
    ⟨p.attempts.toNat - l - 1, by omega⟩
  have cannot : p.canPause l = false := by simp [canPause, limit]
  refine paced_of_last (fun i less => retries_of_isLeast least (by omega)) ?_ attempts
    (runFrom_of_tooLong (retries_of_isLeast least early) (by omega) cannot)
  intro other same
  exact (Option.some.inj (limit.symm.trans same)).le

/-- Without attempts nothing happens, and the run fails with an error of its own.  Otherwise it
makes as many calls as up to the first outcome that allows no other, but no more than the policy
has, with pauses of one, two, four and so on delays between them, and comes to what the last of
these calls came to, just when so many pauses can be computed.  When they cannot, it makes the calls
around those that can and fails then. -/
theorem completes_iff (p : RetryPolicy ℚ) (outcome : ℕ → Except CallFailure α) :
    (p.attempts ≤ 0 →
      p.run outcome = { events := [], result := .error .noAttempt } ∧
        RetryError.noAttempt.kindName = "RuntimeError") ∧
      (1 ≤ p.attempts → ∃ k, IsLeast (p.endings outcome) k ∧
        ((p.run outcome).Completes p.delay outcome k ↔ ∀ l ∈ p.pauseLimit, k ≤ l + 1) ∧
        ∀ l ∈ p.pauseLimit, l + 1 < k →
          (p.run outcome).Paced p.delay outcome (l + 1) ∧
            (p.run outcome).result = .error .tooLong) := by
  refine ⟨fun none => ⟨run_of_attempts_le none outcome, rfl⟩, fun some => ?_⟩
  obtain ⟨k, least, positive, within⟩ := exists_isLeast_endings some outcome
  refine ⟨k, least, ⟨fun completes l limit => ?_, completes_of_isLeast least positive within⟩,
    fun l limit => paced_of_limit least within limit⟩
  by_contra early
  have paced := (paced_of_limit least within limit (by omega)).1
  have same : k = l + 1 := completes.calls.symm.trans paced.calls
  omega

/-- A request that comes to an answer the third time. -/
def flaky : ℕ → Except CallFailure String
  | 0 | 1 => .error { kind := .timeout, text := "request timed out", status := none }
  | _ => .ok "ok"

/-- A policy of three calls that waits half a second first. -/
def threefold : RetryPolicy ℚ :=
  { attempts := 3, delay := 1 / 2, passing := [], pauseLimit := some floatPauses }

theorem eq_three_of_isLeast {p : RetryPolicy ℚ} {k : ℕ} (attempts : p.attempts = 3)
    (passing : p.passing = []) (least : IsLeast (p.endings flaky) k) : k = 3 := by
  have upper : k ≤ 3 := least.2 (.inl (by rw [attempts]; rfl))
  have again : ∀ i < 2, p.retries (flaky i) = true := by
    intro i less
    have cases : i = 0 ∨ i = 1 := by omega
    rcases cases with rfl | rfl
    · simp only [retries, flaky, allows, passing]
      decide
    · simp only [retries, flaky, allows, passing]
      decide
  rcases least.1 with last | ⟨i, next, ends⟩
  · omega
  · have late : ¬i < 2 := fun less => by simp [again i less] at ends
    omega

/-- The three calls are made with pauses of half a second and of one second.  When no more than one
pause can be computed there are two calls, and without attempts there are none. -/
theorem completes_iff_flaky :
    (threefold.run flaky).Completes (1 / 2) flaky 3 ∧
      (({ threefold with pauseLimit := some 1 }.run flaky).Paced (1 / 2) flaky 2 ∧
        ({ threefold with pauseLimit := some 1 }.run flaky).result = .error .tooLong) ∧
      { threefold with attempts := 0 }.run flaky =
        { events := [], result := .error .noAttempt } := by
  refine ⟨?_, ?_, ((completes_iff { threefold with attempts := 0 } flaky).1 (by decide)).1⟩
  · obtain ⟨k, least, completes, -⟩ := (completes_iff threefold flaky).2 (by decide)
    obtain rfl := eq_three_of_isLeast rfl rfl least
    exact completes.mpr fun l limit => by obtain rfl := Option.some.inj limit; decide
  · obtain ⟨k, least, -, early⟩ :=
      (completes_iff { threefold with pauseLimit := some 1 } flaky).2 (by decide)
    obtain rfl := eq_three_of_isLeast rfl rfl least
    exact early 1 rfl (by decide)

/-- There are too few powers of two among floats for policies of very many calls.  Of 1026 calls
that are allowed and all time out, the last is not made, even when there is nothing to wait for. -/
theorem not_always_completes : ¬∀ (p : RetryPolicy ℚ) (outcome : ℕ → Except CallFailure String),
    p.pauseLimit = some floatPauses → 1 ≤ p.attempts →
      ∃ k, IsLeast (p.endings outcome) k ∧ (p.run outcome).Completes p.delay outcome k := by
  intro all
  let p : RetryPolicy ℚ :=
    { attempts := 1026, delay := 0, passing := [], pauseLimit := some floatPauses }
  let outcome : ℕ → Except CallFailure String :=
    fun _ => .error { kind := .timeout, text := "timeout", status := none }
  have again : ∀ i, p.retries (outcome i) = true := fun _ => by decide
  obtain ⟨k, least, completes⟩ := all p outcome rfl (by decide)
  have due : k = 1026 := by
    rcases least.1 with last | ⟨i, -, ends⟩
    · exact Int.ofNat.inj last
    · exact absurd ((again i).symm.trans ends) (by decide)
  have paced := (paced_of_limit (l := 1024) least due.le rfl (by omega)).1
  have same : k = 1025 := completes.calls.symm.trans paced.calls
  omega

/-! ## Pauses after whole delays -/

/-- A pause after a whole delay can be computed just when its seconds become a float. -/
theorem all_wholePauses_iff (delay : ℤ) (call : ℕ) :
    (wholePauses delay).all (call < ·) = true ↔ delay.natAbs * 2 ^ call ≤ largestWhole := by
  unfold wholePauses
  extract_lets fits
  split
  · next zero => simp [zero]
  · next nonzero =>
    have positive : 0 < delay.natAbs := Int.natAbs_pos.mpr nonzero
    have within : delay.natAbs * 2 ^ call ≤ largestWhole ↔ 2 ^ call ≤ fits := by
      rw [Nat.le_div_iff_mul_le positive, Nat.mul_comm]
    rw [Option.all_some, decide_eq_true_iff, within]
    split
    · next none =>
      rw [none, Nat.le_zero]
      simp
    · next some => rw [Nat.lt_succ_iff, Nat.le_log2 some]

end RetryPolicy

end FactModel
