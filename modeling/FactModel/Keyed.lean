/-!
# Lists of pairs as maps

A map is a list of pairs of a key and a value in which no key occurs twice.  Putting a value under
a key that is there already replaces the value and keeps its place.
-/

namespace FactModel.Keyed

variable {κ α : Type} [DecidableEq κ]

/-- The value under a key. -/
def get? (key : κ) (entries : List (κ × α)) : Option α :=
  (entries.find? (·.1 == key)).map (·.2)

/-- Puts a value under a key: in place of the value there, or else at the end. -/
def put (key : κ) (value : α) : List (κ × α) → List (κ × α)
  | [] => [(key, value)]
  | (other, old) :: rest =>
    if other = key then (key, value) :: rest else (other, old) :: put key value rest

/-- The map of some entries; of several values for one key the last counts. -/
def ofList (entries : List (κ × α)) : List (κ × α) :=
  entries.foldl (fun acc (key, value) => put key value acc) []

/-- The value last put under a key is found there. -/
@[simp]
theorem get?_put_self (key : κ) (value : α) (entries : List (κ × α)) :
    get? key (put key value entries) = some value := by
  induction entries with
  | nil => simp [put, get?]
  | cons head rest ih =>
    obtain ⟨other, old⟩ := head
    by_cases same : other = key
    · simp [put, same, get?]
    · simpa [put, same, get?] using ih

/-- The values under other keys stay. -/
theorem get?_put_of_ne {key other : κ} (differ : other ≠ key) (value : α)
    (entries : List (κ × α)) : get? other (put key value entries) = get? other entries := by
  induction entries with
  | nil => simp [put, get?, Ne.symm differ]
  | cons head rest ih =>
    obtain ⟨first, old⟩ := head
    by_cases same : first = key
    · subst same
      simp [put, get?, Ne.symm differ]
    · by_cases found : first = other
      · subst found
        simp [put, same, get?]
      · simpa [put, same, get?, found] using ih

end FactModel.Keyed
