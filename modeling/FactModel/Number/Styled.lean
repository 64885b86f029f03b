import FactModel.Number.Shortest

/-!
# Styles of numbers

The digits of a floating-point number rounded to a count of them, and the ways to set a point and an
exponent among digits: with a fixed number of places, with an exponent always, or with an exponent only
where the number is very large or very small.

The digits of a whole number may stand in groups of one size, counted from the last digit, with a mark
between them.  Zeros in front fill the number up to a width, and are grouped with it.
-/

namespace FactModel.Number

/-! ## Fixed places

The exact value is rounded, a half going to the even neighbour. -/

/-- The quotient of two natural numbers rounded to the nearest, a half to the even neighbour. -/
def roundDiv (num den : Nat) : Nat :=
  let q := num / den
  let twice := 2 * (num % den)
  if twice < den ∨ (twice = den ∧ q % 2 = 0) then q else q + 1

/-- The digits of a quotient with so many decimal places. -/
def fixedDigits (places num den : Nat) : List Char :=
  let scaled := roundDiv (num * Nat.pow 10 places) den
  let digits := Nat.toDigits 10 scaled
  let digits := List.replicate (places + 1 - digits.length) '0' ++ digits
  let whole := digits.take (digits.length - places)
  let fraction := digits.drop (digits.length - places)
  if places = 0 then whole else whole ++ '.' :: fraction

/-- A number taken apart with so many decimal places.  Its sign stays when it is rounded to zero. -/
def Parts.fixed (places : Nat) : Parts → String
  | .finite negative x =>
    let digits := fixedDigits places (x.numerator (4 * x.m)) x.denominator
    String.ofList (if negative then '-' :: digits else digits)
  | special => special.text

/-- A floating-point number with so many decimal places. -/
def fixedText (places : Nat) (x : Float) : String :=
  (Parts.ofBits x.toBits.toNat).fixed places

/-- Rounding is off by at most half a unit. -/
theorem two_mul_roundDiv_le {num den : Nat} (pos : 0 < den) :
    2 * (den * roundDiv num den) ≤ 2 * num + den ∧
      2 * num ≤ 2 * (den * roundDiv num den) + den := by
  have split := Nat.div_add_mod num den
  have rest := Nat.mod_lt num pos
  unfold roundDiv
  simp only
  split
  · next small => constructor <;> omega
  · next large =>
    rw [Nat.mul_add, Nat.mul_one]
    constructor <;> omega

/-! ## Placed digits -/

/-- Digits with a point among them. -/
structure Placed where
  digits : List Char
  /-- How many digits stand in front of the point; below zero, how many zeros stand behind it in
  front of the digits. -/
  point : Int
  deriving DecidableEq, Repr

/-- Digits without the zeros at their end. -/
def dropLastZeros (digits : List Char) : List Char :=
  (digits.reverse.dropWhile (· = '0')).reverse

/-- Zero. -/
def Placed.zero : Placed :=
  { digits := ['0'], point := 1 }

/-- A number rounded to so many digits, a half to the even neighbour, without zeros at the end. -/
def Binary.rounded (x : Binary) (count : Nat) : Placed :=
  if x.m = 0 then .zero
  else
    let unit := x.leading + 1 - count
    let digits := Nat.toDigits 10 <|
      roundDiv (x.numerator (4 * x.m) * pow 10 (max (-unit) 0))
        (x.denominator * pow 10 (max unit 0))
    { digits := dropLastZeros digits, point := unit + digits.length }

/-- The fewest digits that read back as a number. -/
def Binary.shortestPlaced (x : Binary) : Placed :=
  if x.m = 0 then .zero
  else
    let digits := Nat.toDigits 10 x.shortest.digits
    { digits, point := x.shortest.exponent + digits.length }

/-- A way to write numbers. -/
structure Style where
  /-- Write the point even where nothing follows it, and keep zeros at the end. -/
  full : Bool
  /-- Write a place behind the point even for whole numbers. -/
  pointed : Bool
  deriving DecidableEq, Repr

/-- The least place of the point that is written without an exponent. -/
def leastPoint : Int := -3

/-- The greatest place of the point that is written without an exponent when all digits are. -/
def greatestPoint : Int := 16

namespace Style

/-- A point and what follows it. -/
def fraction (style : Style) (digits : List Char) : List Char :=
  if digits = [] then if style.full then ['.'] else [] else '.' :: digits

/-- Digits written out with so many places at least. -/
def plain (style : Style) (places : Nat) (d : Placed) : List Char :=
  let front := d.point.toNat
  let whole := d.digits.take front
  let whole := whole ++ List.replicate (front - whole.length) '0'
  let behind := List.replicate (-d.point).toNat '0' ++ d.digits.drop front
  (if whole = [] then ['0'] else whole) ++
    style.fraction (behind ++ List.replicate (places - behind.length) '0')

/-- Digits written out with one in front of the point, so many places at least, and an exponent. -/
def scientific (style : Style) (places : Nat) (d : Placed) : List Char :=
  let exponent := d.point - 1
  style.plain places { d with point := 1 } ++
    ['e', if exponent < 0 then '-' else '+'] ++ padZeros 2 (Nat.toDigits 10 exponent.natAbs)

/-- Digits written out, with an exponent where the point is too far to the left or to the right of
them. -/
def general (style : Style) (kept : Nat) (greatest : Int) (d : Placed) : List Char :=
  let places (point : Int) : Nat := if style.full then (kept - point).toNat else 0
  if d.point < leastPoint ∨ greatest < d.point then style.scientific (places 1) d
  else style.plain (max (places d.point) (if style.pointed then 1 else 0)) d

end Style

/-! ## Groups -/

/-- Digits, the last one first, in groups with a mark between them, as many characters as `width` at
least.  The bound is on the number of groups. -/
def groupReversed (size : Nat) (mark : Char) : (bound width : Nat) → List Char → List Char
  | 0, _, _ => []
  | bound + 1, width, digits =>
    let count := min size (max (max digits.length width) 1)
    let group := digits.take count ++ List.replicate (count - digits.length) '0'
    if digits.length ≤ count ∧ width ≤ count then group
    else group ++ mark :: groupReversed size mark bound (width - count - 1) (digits.drop count)

/-- Digits in groups with a mark between them, as many characters as `width` at least.  A mark never
stands in front. -/
def grouped (size : Nat) (mark : Char) (width : Nat) (digits : List Char) : List Char :=
  (groupReversed size mark (digits.length + width + 1) width digits.reverse).reverse

/-- Grouped digits fill their width. -/
theorem width_le_length_groupReversed {size : Nat} (mark : Char) {bound width : Nat}
    {digits : List Char} (some_size : 0 < size) (enough : digits.length + width < bound) :
    width ≤ (groupReversed size mark bound width digits).length := by
  induction bound generalizing width digits with
  | zero => omega
  | succ bound inductionHypothesis =>
    unfold groupReversed
    simp only
    split
    · next last =>
      simp only [List.length_append, List.length_take, List.length_replicate]
      omega
    · have rest := @inductionHypothesis
        (width - min size (max (max digits.length width) 1) - 1)
        (digits.drop (min size (max (max digits.length width) 1)))
        (by simp only [List.length_drop]; omega)
      simp only [List.length_append, List.length_take, List.length_replicate, List.length_cons]
      omega

end FactModel.Number
