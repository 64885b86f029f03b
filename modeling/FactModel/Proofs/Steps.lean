/-!
# Steps that may fail

What is known of the steps of a computation from how it ends.
-/

namespace FactModel

variable {ε α β : Type} {x : Except ε α}

theorem of_bind_eq_ok {f : α → Except ε β} {b : β} (bound : x.bind f = .ok b) :
    ∃ a, x = .ok a ∧ f a = .ok b := by
  cases x with
  | error e => simp [Except.bind] at bound
  | ok a => exact ⟨a, rfl, bound⟩

theorem of_bind_eq_error {f : α → Except ε β} {e : ε} (bound : x.bind f = .error e) :
    x = .error e ∨ ∃ a, x = .ok a ∧ f a = .error e := by
  cases x with
  | error e' => exact .inl (by simpa [Except.bind] using bound)
  | ok a => exact .inr ⟨a, rfl, bound⟩

theorem of_map_eq_ok {f : α → β} {b : β} (mapped : x.map f = .ok b) : ∃ a, x = .ok a ∧ f a = b := by
  cases x with
  | error e => simp [Except.map] at mapped
  | ok a => exact ⟨a, rfl, by simpa [Except.map] using mapped⟩

theorem of_map_eq_error {f : α → β} {e : ε} (mapped : x.map f = .error e) : x = .error e := by
  cases x with
  | error e' => simpa [Except.map] using mapped
  | ok a => simp [Except.map] at mapped

/-- A step on each element of a list succeeds when it does on every element. -/
theorem forM_eq_ok {f : α → Except ε Unit} {l : List α} (succeeds : ∀ a ∈ l, f a = .ok ()) :
    l.forM f = .ok () := by
  induction l with
  | nil => rfl
  | cons a rest ih =>
    rw [List.forall_mem_cons] at succeeds
    change (do f a; rest.forM f) = .ok ()
    rw [succeeds.1]
    exact ih succeeds.2

end FactModel
