/-!
# Look-up in sorted character tables

Character classes are lists of inclusive code point ranges and character mappings are lists of
rows `(first, last, step, target)`, both ascending, so a look-up stops at the first entry beyond
the code point.
-/

namespace FactModel.Text

/-- Whether a code point lies in one of the ascending ranges. -/
def inRanges (n : Nat) : List (Nat × Nat) → Bool
  | [] => false
  | (first, last) :: rest => if n < first then false else n ≤ last || inRanges n rest

/-- The image of a code point under the ascending rows, when some row covers it. -/
def mapRows (n : Nat) : List (Nat × Nat × Nat × Nat) → Option Nat
  | [] => none
  | (first, last, step, target) :: rest =>
    if n < first then none
    else if n ≤ last ∧ (n - first) % step = 0 then some (target + (n - first))
    else mapRows n rest

/-- A code point found in a range lies between the ends of that range. -/
theorem exists_range_of_inRanges {n : Nat} {ranges : List (Nat × Nat)}
    (found : inRanges n ranges = true) : ∃ r ∈ ranges, r.1 ≤ n ∧ n ≤ r.2 := by
  induction ranges with
  | nil => simp [inRanges] at found
  | cons r rest ih =>
    obtain ⟨first, last⟩ := r
    simp only [inRanges] at found
    split at found
    · simp at found
    · next notBelow =>
      simp only [Bool.or_eq_true, decide_eq_true_eq] at found
      rcases found with inside | later
      · exact ⟨(first, last), by simp, by omega, inside⟩
      · obtain ⟨r, mem, bounds⟩ := ih later
        exact ⟨r, by simp [mem], bounds⟩

end FactModel.Text
