import Mathlib.Data.List.Perm.Basic

/-!
# Steps on separate parts of a state

Some steps read and change only one part of a state each, and otherwise add to a log.  Steps on
different parts then commute, and a run does not depend on how the steps on different parts are
interleaved: the parts come out the same and the log has the same entries, in whatever order.

States may differ in ways that do not matter for a part.  So that states agree at a part is a
relation and not an equality; it holds of a state and itself only when the state is a proper one.
-/

namespace FactModel

section Reordering

variable {S T F K D ε : Type}

/-- Two runs end alike: both fail, or both succeed in related states. -/
inductive EndAlike (R : S → S → Prop) : Except ε S → Except ε S → Prop where
  | ok {s t : S} (related : R s t) : EndAlike R (.ok s) (.ok t)
  | error (e e' : ε) : EndAlike R (.error e) (.error e')

theorem EndAlike.bind {R : S → S → Prop} {Q : T → T → Prop} {x y : Except ε S}
    {f g : S → Except ε T} (first : EndAlike R x y)
    (rest : ∀ s t, R s t → EndAlike Q (f s) (g t)) : EndAlike Q (x >>= f) (y >>= g) := by
  cases first with
  | ok related => exact rest _ _ related
  | error e e' => exact .error e e'

theorem EndAlike.isOk_iff {R : S → S → Prop} {x y : Except ε S} (alike : EndAlike R x y) :
    (∃ s, x = .ok s) ↔ ∃ t, y = .ok t := by
  cases alike <;> simp

theorem EndAlike.of_ok {R : S → S → Prop} {x y : Except ε S} (alike : EndAlike R x y) {s t : S}
    (left : x = .ok s) (right : y = .ok t) : R s t := by
  subst left right
  cases alike with
  | ok related => exact related

theorem EndAlike.imp {R Q : S → S → Prop} {x y : Except ε S} (alike : EndAlike R x y)
    (imp : ∀ s t, x = .ok s → y = .ok t → R s t → Q s t) : EndAlike Q x y := by
  cases alike with
  | ok related => exact .ok (imp _ _ rfl rfl related)
  | error e e' => exact .error e e'

theorem EndAlike.of_map {R : T → T → Prop} {x y : Except ε S} {f g : S → T}
    (alike : EndAlike R (x.map f) (y.map g)) : EndAlike (fun s t => R (f s) (g t)) x y := by
  cases x with
  | error e =>
    cases y with
    | error e' => exact .error e e'
    | ok t => cases alike
  | ok s =>
    cases y with
    | error e' => cases alike
    | ok t =>
      cases alike with
      | ok related => exact .ok related

/-- Two states are changed alike at a part: the same is added to their logs. -/
structure ChangedAlike (agree : S → S → Prop) (log : S → List D) (s t s' t' : S) : Prop where
  agrees : agree s' t'
  logs : ∃ added, log s' = log s ++ added ∧ log t' = log t ++ added

/-- Steps that read and change one part of the state each.

* Where states agree at the part of a step, the step fails in both or changes them alike there.
* A step keeps all other parts. -/
structure Separate (key : F → K) (step : S → F → Except ε S) (agree : K → S → S → Prop)
    (log : S → List D) (valid : F → Prop) : Prop where
  symm : ∀ {k s t}, agree k s t → agree k t s
  trans : ∀ {k s t u}, agree k s t → agree k t u → agree k s u
  reads : ∀ {f s t}, valid f → agree (key f) s t →
    (∃ s' t', step s f = .ok s' ∧ step t f = .ok t' ∧
      ChangedAlike (agree (key f)) log s t s' t') ∨
    ∃ e e', step s f = .error e ∧ step t f = .error e'
  keeps : ∀ {f k s s'}, valid f → k ≠ key f → agree k s s → step s f = .ok s' → agree k s s'

/-- States agree at all parts, and their logs have the same entries. -/
def AgreeThroughout (agree : K → S → S → Prop) (log : S → List D) (s t : S) : Prop :=
  (∀ k, agree k s t) ∧ (log s).Perm (log t)

namespace Separate

variable {key : F → K} {step : S → F → Except ε S} {agree : K → S → S → Prop} {log : S → List D}
  {valid : F → Prop} (separate : Separate key step agree log valid)

include separate

theorem agreeThroughout_symm {s t : S} (agrees : AgreeThroughout agree log s t) :
    AgreeThroughout agree log t s :=
  ⟨fun k => separate.symm (agrees.1 k), agrees.2.symm⟩

theorem agreeThroughout_trans {s t u : S} (first : AgreeThroughout agree log s t)
    (second : AgreeThroughout agree log t u) : AgreeThroughout agree log s u :=
  ⟨fun k => separate.trans (first.1 k) (second.1 k), first.2.trans second.2⟩

theorem agreeThroughout_left {s t : S} (agrees : AgreeThroughout agree log s t) :
    AgreeThroughout agree log s s :=
  separate.agreeThroughout_trans agrees (separate.agreeThroughout_symm agrees)

theorem endAlike_symm {x y : Except ε S} (alike : EndAlike (AgreeThroughout agree log) x y) :
    EndAlike (AgreeThroughout agree log) y x := by
  cases alike with
  | ok agrees => exact .ok (separate.agreeThroughout_symm agrees)
  | error e e' => exact .error e' e

theorem endAlike_trans {x y z : Except ε S} (first : EndAlike (AgreeThroughout agree log) x y)
    (second : EndAlike (AgreeThroughout agree log) y z) :
    EndAlike (AgreeThroughout agree log) x z := by
  cases first with
  | ok agrees =>
    cases second with
    | ok agrees' => exact .ok (separate.agreeThroughout_trans agrees agrees')
  | error e e' =>
    cases second with
    | error _ e'' => exact .error e e''

/-- A step in states that agree. -/
theorem step_congr {f : F} (isValid : valid f) {s t : S} (agrees : AgreeThroughout agree log s t) :
    EndAlike (AgreeThroughout agree log) (step s f) (step t f) := by
  rcases separate.reads isValid (agrees.1 (key f)) with
    ⟨s', t', sStep, tStep, here, added, sLog, tLog⟩ | ⟨e, e', sStep, tStep⟩
  · rw [sStep, tStep]
    refine .ok ⟨fun k => ?_, ?_⟩
    · by_cases same : k = key f
      · exact same ▸ here
      · have both := agrees.1 k
        have left := separate.keeps isValid same (separate.trans both (separate.symm both)) sStep
        have right := separate.keeps isValid same (separate.trans (separate.symm both) both) tStep
        exact separate.trans (separate.symm left) (separate.trans both right)
    · rw [sLog, tLog]
      exact agrees.2.append_right added
  · rw [sStep, tStep]
    exact .error e e'

/-- A run from states that agree. -/
theorem run_congr {l : List F} (allValid : ∀ f ∈ l, valid f) {s t : S}
    (agrees : AgreeThroughout agree log s t) :
    EndAlike (AgreeThroughout agree log) (l.foldlM step s) (l.foldlM step t) := by
  induction l generalizing s t with
  | nil => exact .ok agrees
  | cons f rest ih =>
    rw [List.foldlM_cons, List.foldlM_cons]
    exact (separate.step_congr (allValid f List.mem_cons_self) agrees).bind fun _ _ agrees' =>
      ih (fun g mem => allValid g (List.mem_cons_of_mem _ mem)) agrees'

/-- A step does the same after a step on another part. -/
theorem reads_after {f g : F} (fValid : valid f) (gValid : valid g) (apart : key f ≠ key g) {s s' : S}
    (proper : ∀ k, agree k s s) (fStep : step s f = .ok s') :
    (∃ t t', step s g = .ok t ∧ step s' g = .ok t' ∧
      ChangedAlike (agree (key g)) log s s' t t') ∨
    ∃ e e', step s g = .error e ∧ step s' g = .error e' :=
  separate.reads gValid (separate.keeps fValid apart.symm (proper _) fStep)

/-- Steps on different parts commute. -/
theorem step_comm {f g : F} (fValid : valid f) (gValid : valid g) (apart : key f ≠ key g) {s : S}
    (proper : ∀ k, agree k s s) :
    EndAlike (AgreeThroughout agree log) (step s f >>= (step · g)) (step s g >>= (step · f)) := by
  cases fStep : step s f with
  | error e =>
    cases gStep : step s g with
    | error e' => exact .error e e'
    | ok s₂ =>
      rcases separate.reads_after gValid fValid apart.symm proper gStep with
        ⟨_, _, other, -⟩ | ⟨-, e', -, failed⟩
      · cases fStep.symm.trans other
      · simp only [bind, Except.bind, failed]
        exact .error e e'
  | ok s₁ =>
    rcases separate.reads_after fValid gValid apart proper fStep with
      ⟨s₂, s₁₂, gStep, gStep₁, gAgrees, gAdded, gLog, gLog₁⟩ | ⟨e, e', gStep, failed⟩
    · rcases separate.reads_after gValid fValid apart.symm proper gStep with
        ⟨_, s₂₁, fStep', fStep₂, fAgrees, fAdded, fLog, fLog₂⟩ | ⟨_, _, failed, -⟩
      · cases fStep.symm.trans fStep'
        simp only [gStep, bind, Except.bind, gStep₁, fStep₂]
        have refl {k : K} {t u : S} (agrees : agree k t u) : agree k u u :=
          separate.trans (separate.symm agrees) agrees
        refine .ok ⟨fun k => ?_, ?_⟩
        · by_cases atF : k = key f
          · -- The second step keeps what the first did, which is done likewise after it.
            subst atF
            have kept := separate.keeps gValid apart (separate.trans fAgrees (separate.symm fAgrees))
              gStep₁
            exact separate.trans (separate.symm kept) fAgrees
          · have first := separate.keeps fValid atF (proper k) fStep
            by_cases atG : k = key g
            · subst atG
              have kept := separate.keeps fValid atF (separate.trans gAgrees (separate.symm gAgrees))
                fStep₂
              exact separate.trans (separate.symm gAgrees) kept
            · have second := separate.keeps gValid atG (proper k) gStep
              have left := separate.trans first (separate.keeps gValid atG (refl first) gStep₁)
              have right := separate.trans second (separate.keeps fValid atF (refl second) fStep₂)
              exact separate.trans (separate.symm left) right
        · rw [gLog₁, fLog, fLog₂, gLog, List.append_assoc, List.append_assoc]
          exact List.perm_append_comm.append_left _
      · cases fStep.symm.trans failed
    · simp only [gStep, bind, Except.bind, failed]
      exact .error e' e

/-- A step may be taken before steps on other parts. -/
theorem run_move {f : F} (fValid : valid f) {before after : List F}
    (beforeValid : ∀ g ∈ before, valid g) (afterValid : ∀ g ∈ after, valid g)
    (apart : ∀ g ∈ before, key g ≠ key f) {s : S} (proper : AgreeThroughout agree log s s) :
    EndAlike (AgreeThroughout agree log) ((before ++ f :: after).foldlM step s)
      ((f :: (before ++ after)).foldlM step s) := by
  induction before generalizing s with
  | nil => exact separate.run_congr (by simpa using ⟨fValid, afterValid⟩) proper
  | cons g before ih =>
    have gValid := beforeValid g List.mem_cons_self
    have restValid : ∀ h ∈ before ++ after, valid h := by
      intro h mem
      rcases List.mem_append.mp mem with early | late
      · exact beforeValid h (List.mem_cons_of_mem _ early)
      · exact afterValid h late
    have swapped : EndAlike (AgreeThroughout agree log)
        ((g :: f :: (before ++ after)).foldlM step s)
        ((f :: g :: (before ++ after)).foldlM step s) := by
      simp only [List.foldlM_cons, ← bind_assoc]
      exact (separate.step_comm gValid fValid (apart g List.mem_cons_self) proper.1).bind
        fun _ _ agrees => separate.run_congr restValid agrees
    refine separate.endAlike_trans ?_ swapped
    rw [List.cons_append, List.foldlM_cons, List.foldlM_cons]
    refine (separate.step_congr gValid proper).bind fun t u agrees => ?_
    have moved := ih (fun h mem => beforeValid h (List.mem_cons_of_mem _ mem))
      (fun h mem => apart h (List.mem_cons_of_mem _ mem)) (separate.agreeThroughout_left agrees)
    refine separate.endAlike_trans moved (separate.run_congr ?_ agrees)
    intro h mem
    rcases List.mem_cons.mp mem with rfl | mem
    · exact fValid
    · exact restValid h mem

/-- A run depends on the order of the steps on each part, and not on how they are interleaved. -/
theorem run_reorder [DecidableEq K] {l l' : List F} (allValid : ∀ f ∈ l, valid f)
    (same : ∀ k, l.filter (key · == k) = l'.filter (key · == k)) {s t : S}
    (agrees : AgreeThroughout agree log s t) :
    EndAlike (AgreeThroughout agree log) (l.foldlM step s) (l'.foldlM step t) := by
  induction l generalizing l' s t with
  | nil =>
    have none : l' = [] := by
      rw [List.eq_nil_iff_forall_not_mem]
      intro f mem
      have there : f ∈ l'.filter (key · == key f) := by simpa using mem
      rw [← same (key f)] at there
      contradiction
    rw [none]
    exact .ok agrees
  | cons f rest ih =>
    have fValid := allValid f List.mem_cons_self
    have restValid : ∀ g ∈ rest, valid g := fun g mem => allValid g (List.mem_cons_of_mem _ mem)
    have first : l'.filter (key · == key f) = f :: rest.filter (key · == key f) := by
      rw [← same, List.filter_cons_of_pos (by simp)]
    obtain ⟨before, after, rfl, apart, -, restSame⟩ := List.filter_eq_cons_iff.mp first
    have before_nil : before.filter (key · == key f) = [] := List.filter_eq_nil_iff.mpr apart
    have sameRest (k : K) :
        rest.filter (key · == k) = (before ++ after).filter (key · == k) := by
      rw [List.filter_append]
      by_cases atF : k = key f
      · rw [atF, before_nil, restSame, List.nil_append]
      · have other : (key f == k) = false := by simpa using Ne.symm atF
        have whole := same k
        simpa only [List.filter_append, List.filter_cons, other, Bool.false_eq_true, if_false]
          using whole
    have othersValid : ∀ g ∈ before ++ after, valid g := by
      intro g mem
      have there : g ∈ (before ++ after).filter (key · == key g) := by simpa using mem
      rw [← sameRest] at there
      exact restValid g (List.mem_of_mem_filter there)
    have moved := separate.run_move fValid
      (fun g mem => othersValid g (List.mem_append_left _ mem))
      (fun g mem => othersValid g (List.mem_append_right _ mem))
      (fun g mem => by simpa using apart g mem)
      (separate.agreeThroughout_left (separate.agreeThroughout_symm agrees))
    refine separate.endAlike_trans ?_ (separate.endAlike_symm moved)
    rw [List.foldlM_cons, List.foldlM_cons]
    exact (separate.step_congr fValid agrees).bind fun _ _ agrees' => ih restValid sameRest agrees'

end Separate

end Reordering

end FactModel
