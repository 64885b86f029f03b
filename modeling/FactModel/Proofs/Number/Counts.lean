import FactModel.Number.Count
import FactModel.Proofs.Text.Tidy
import Mathlib.Data.List.Basic
import Mathlib.Data.List.TakeWhile

/-!
# Counts in decimal digits

A number that is written in decimal digits is read as itself, as long as it has no more digits than
a count may have.
-/

namespace FactModel.Count

open FactModel.Text

/-- The decimal digits of a number. -/
def digits (n : Nat) : List Char :=
  Nat.toDigits 10 n

/-- Whether a count has no more digits than may be read. -/
def Readable (n : Nat) : Prop :=
  (digits n).length ≤ maxDigits

instance (n : Nat) : Decidable (Readable n) :=
  inferInstanceAs (Decidable ((digits n).length ≤ maxDigits))

theorem toList_toString (n : Nat) : (toString n).toList = digits n := by
  simp [digits]

theorem digits_ne_nil (n : Nat) : digits n ≠ [] :=
  Nat.toDigits_ne_nil

/-- What holds of the ten digits holds of every digit. -/
theorem of_isDigit {P : Char → Prop} (all : ∀ c ∈ "0123456789".toList, P c) {c : Char}
    (isDigit : c.isDigit = true) : P c := by
  apply all
  simp only [Char.isDigit, Bool.and_eq_true, decide_eq_true_eq] at isDigit
  obtain ⟨least, most⟩ := isDigit
  have few : ∀ k, k < 10 → Char.ofNat (48 + k) ∈ "0123456789".toList := by decide
  have least : 48 ≤ c.toNat := least
  have most : c.toNat ≤ 57 := most
  have inTen := few (c.toNat - 48) (by omega)
  rwa [show 48 + (c.toNat - 48) = c.toNat by omega, Char.ofNat_toNat] at inTen

/-- What holds of the ten digits holds of each digit of a number. -/
theorem forall_mem_digits {P : Char → Prop} (all : ∀ c ∈ "0123456789".toList, P c) (n : Nat) :
    ∀ c ∈ digits n, P c :=
  fun _ mem => of_isDigit all (Nat.isDigit_of_mem_toDigits (by decide) (by decide) mem)

theorem lowerFrom_eq_self {passed cs : List Char}
    (plain : ∀ c ∈ cs, c ≠ 'Σ' ∧ c ≠ 'İ' ∧ lowerChar c = c) : lowerFrom passed cs = cs := by
  induction cs generalizing passed with
  | nil => rfl
  | cons c cs ih =>
    obtain ⟨notSigma, notDotted, same⟩ := plain c List.mem_cons_self
    rw [lowerFrom, ih fun d mem => plain d (List.mem_cons_of_mem _ mem)]
    simp [notSigma, notDotted, same]

theorem solid_digits (n : Nat) : Solid (digits n) :=
  ⟨digits_ne_nil n, forall_mem_digits (by decide) n⟩

theorem decimal_digits (n : Nat) : decimal (digits n) = n := by
  have values : ∀ c ∈ digits n, (decimalValue? c).getD 0 = c.toNat - '0'.toNat :=
    forall_mem_digits (by decide) n
  have same : decimal (digits n) = Nat.ofDigitChars 10 (digits n) 0 := by
    rw [Nat.ofDigitChars_eq_foldl, decimal]
    apply List.foldl_ext
    intro total c mem
    exact congrArg (10 * total + ·) (values c mem)
  rw [same]
  exact Nat.ofDigitChars_ten_toDigits

/-- A number is read back from its digits. -/
theorem read_digits {n : Nat} (readable : Readable n) : read (digits n) = .ok (some n) := by
  have decimals : ∀ c ∈ digits n, isDecimal c = true := forall_mem_digits (by decide) n
  have word : lower (trim (digits n)) = digits n := by
    rw [(solid_digits n).tidy.trim_eq]
    exact lowerFrom_eq_self (forall_mem_digits (by decide) n)
  have isNumber : digits n ≠ [] ∧ (digits n).all isDigit = true := by
    constructor
    · exact digits_ne_nil n
    · rw [List.all_eq_true]
      exact forall_mem_digits (by decide) n
  simp only [read, word, if_pos isNumber, ofDigits_eq_ok decimals readable, decimal_digits]
  rfl

/-! ## Digits that denote no number -/

/-- Why a token of digits is no count: the decimal digits at its front are too many, or some digit is
not decimal. -/
inductive Misread (token : List Char) : CountError → Prop where
  | tooLong (digits : lower (trim token) ≠ [] ∧ (lower (trim token)).all isDigit = true)
    (long : maxDigits < ((lower (trim token)).takeWhile isDecimal).length) :
    Misread token (.tooLong ((lower (trim token)).takeWhile isDecimal).length)
  | notDecimal (digits : lower (trim token) ≠ [] ∧ (lower (trim token)).all isDigit = true)
    (short : ((lower (trim token)).takeWhile isDecimal).length ≤ maxDigits)
    (other : ∃ c ∈ lower (trim token), isDecimal c = false) :
    Misread token (.notDecimal (String.ofList (lower (trim token))))

theorem length_takeWhile_lt_iff {p : Char → Bool} {cs : List Char} :
    (cs.takeWhile p).length < cs.length ↔ ∃ c ∈ cs, p c = false := by
  have most := (List.takeWhile_prefix p (l := cs)).length_le
  rw [← not_iff_not, Nat.not_lt]
  constructor
  · intro whole
    have same := (List.takeWhile_prefix p).eq_of_length (by omega : _ = cs.length)
    rw [List.takeWhile_eq_self_iff] at same
    simpa using same
  · intro all
    have same : cs.takeWhile p = cs := List.takeWhile_eq_self_iff.mpr (by simpa using all)
    rw [same]

/-- Reading fails on nothing but digits that denote no number. -/
theorem read_eq_error_iff {token : List Char} {e : CountError} :
    read token = .error e ↔ Misread token e := by
  constructor
  · intro failed
    simp only [read, ofDigits] at failed
    split at failed
    · next digits =>
      split at failed
      · next long =>
        cases failed
        exact .tooLong digits long
      · next short =>
        split at failed
        · next less =>
          cases failed
          exact .notDecimal digits (Nat.not_lt.mp short) (length_takeWhile_lt_iff.mp less)
        · contradiction
    · contradiction
  · rintro (⟨digits, long⟩ | ⟨digits, short, other⟩)
    · simp only [read, if_pos digits, ofDigits, if_pos long]
      rfl
    · have less := length_takeWhile_lt_iff.mpr other
      simp only [read, if_pos digits, ofDigits, if_neg (Nat.not_lt.mpr short), if_pos less]
      rfl

end FactModel.Count
