/-!
# Shortest decimal text of a binary number

A finite binary floating-point number is `m * 2 ^ q`.  Of the decimals that are nearer to it than
to any other such number the shortest is chosen, and of the shortest the nearest.
-/

namespace FactModel.Number

/-- A nonnegative binary number `m * 2 ^ q` and whether the next smaller one is only half as far
away as the next greater one. -/
structure Binary where
  m : Nat
  q : Int
  narrowBelow : Bool
  deriving DecidableEq, Repr

/-- A nonnegative decimal `digits * 10 ^ exponent`. -/
structure Digits where
  digits : Nat
  exponent : Int
  deriving DecidableEq, Repr

/-- Natural power with an integer exponent, zero for negative ones. -/
def pow (base : Nat) (exponent : Int) : Nat :=
  if exponent < 0 then 0 else Nat.pow base exponent.toNat

/-- The numerator of `m * 2 ^ q` over `denominator`, for an `m` counted in quarters. -/
def Binary.numerator (x : Binary) (m : Nat) : Nat :=
  m * pow 2 (max x.q 0)

/-- The denominator of quarters of the number, half and quarter steps being whole over it. -/
def Binary.denominator (x : Binary) : Nat :=
  4 * pow 2 (max (-x.q) 0)

/-- Whether `digits * 10 ^ exponent` lies in the interval of reals that round to the number.  The
ends belong to it exactly when `m` is even. -/
def Binary.covers (x : Binary) (d : Digits) : Bool :=
  let value := d.digits * pow 10 (max d.exponent 0) * x.denominator
  let unit := pow 10 (max (-d.exponent) 0)
  let below := x.numerator (4 * x.m - if x.narrowBelow then 1 else 2) * unit
  let above := x.numerator (4 * x.m + 2) * unit
  if x.m % 2 = 0 then below ≤ value && value ≤ above else below < value && value < above

/-- The two neighbours of the number on the grid of multiples of `10 ^ exponent`, and whether the
lower one is the nearer one, a tie going to the even multiple. -/
def Binary.neighbours (x : Binary) (exponent : Int) : Digits × Digits × Bool :=
  let num := x.numerator (4 * x.m) * pow 10 (max (-exponent) 0)
  let den := x.denominator * pow 10 (max exponent 0)
  let lower := num / den
  let twice := 2 * (num - lower * den)
  ({ digits := lower, exponent }, { digits := lower + 1, exponent },
    twice < den || (twice == den && lower % 2 == 0))

/-- The nearest decimal on a grid that reads back as the number, if there is one. -/
def Binary.onGrid? (x : Binary) (exponent : Int) : Option Digits :=
  let (lower, upper, lowerFirst) := x.neighbours exponent
  let ordered := if lowerFirst then [lower, upper] else [upper, lower]
  ordered.find? fun d => x.covers d && d.digits != 0

/-- The exponent of the grid on which the number has one digit before the point. -/
def Binary.leading (x : Binary) : Int :=
  let num := x.numerator (4 * x.m)
  let den := x.denominator
  if den ≤ num then ((Nat.toDigits 10 (num / den)).length : Int) - 1
  else -((Nat.toDigits 10 ((den - 1) / num)).length : Int)

/-- The digits of a decimal without zeros at the end.  The bound is on the number of digits. -/
def stripZeros : (bound : Nat) → Digits → Digits
  | 0, d => d
  | bound + 1, d =>
    if d.digits % 10 = 0 ∧ d.digits ≠ 0 then
      stripZeros bound { digits := d.digits / 10, exponent := d.exponent + 1 }
    else d

/-- The shortest decimal that reads back as a positive number: the coarsest grid with a hit. -/
def Binary.shortest (x : Binary) : Digits :=
  let hit := (List.range 18).findSome? fun (n : Nat) => x.onGrid? (x.leading - (n : Int))
  stripZeros 20 (hit.getD { digits := 0, exponent := 0 })

/-- A floating-point number taken apart. -/
inductive Parts where
  | nan
  | infinite (negative : Bool)
  | finite (negative : Bool) (value : Binary)
  deriving DecidableEq, Repr

/-- The unit of the exponent in the bits of a floating-point number: below it stands the fraction, and
it is what a fraction with a leading one begins with. -/
def exponentUnit : Nat := 0x10000000000000

/-- The unit of the sign in the bits of a floating-point number. -/
def signUnit : Nat := 0x8000000000000000

/-- Takes the bits of a floating-point number apart. -/
def Parts.ofBits (bits : Nat) : Parts :=
  let negative := bits / signUnit == 1
  let exponent : Nat := bits / exponentUnit % 2048
  let fraction : Nat := bits % exponentUnit
  if exponent = 2047 then if fraction = 0 then .infinite negative else .nan
  else if exponent = 0 then .finite negative { m := fraction, q := -1074, narrowBelow := false }
  else
    .finite negative
      { m := exponentUnit + fraction, q := (exponent : Int) - 1075,
        narrowBelow := fraction = 0 ∧ 1 < exponent }

/-- How numbers are written: positional when the point falls in a range of places, otherwise with
an exponent. -/
structure Layout where
  /-- The fewest places of the point, counted from in front of the first digit. -/
  least : Int
  /-- The most places of the point. -/
  most : Int
  /-- The fewest digits of an exponent. -/
  exponentWidth : Nat

/-- Numbers between a ten-thousandth and ten million billions are written positionally, and
exponents have at least two digits. -/
def layout : Layout :=
  { least := -3, most := 16, exponentWidth := 2 }

/-- Zeros in front of a digit string up to a width. -/
def padZeros (width : Nat) (digits : List Char) : List Char :=
  List.replicate (width - digits.length) '0' ++ digits

/-- The text of a positive decimal. -/
def Layout.render (l : Layout) (d : Digits) : List Char :=
  let digits := Nat.toDigits 10 d.digits
  let point := (digits.length : Int) + d.exponent
  if point < l.least ∨ l.most < point then
    let exponent := point - 1
    let fraction := digits.drop 1
    digits.take 1 ++ (if fraction = [] then [] else '.' :: fraction) ++
      ['e', if exponent < 0 then '-' else '+'] ++
      padZeros l.exponentWidth (Nat.toDigits 10 exponent.natAbs)
  else if point ≤ 0 then ['0', '.'] ++ List.replicate (-point).toNat '0' ++ digits
  else
    let whole := digits.take point.toNat
    let fraction := digits.drop point.toNat
    whole ++ List.replicate (point.toNat - digits.length) '0' ++ ['.'] ++
      if fraction = [] then ['0'] else fraction

/-- The text of a number taken apart. -/
def Parts.text : Parts → String
  | .nan => "nan"
  | .infinite negative => if negative then "-inf" else "inf"
  | .finite negative x =>
    let body := if x.m = 0 then ['0', '.', '0'] else layout.render x.shortest
    String.ofList (if negative then '-' :: body else body)

/-- The shortest text that reads back as a floating-point number. -/
def floatText (x : Float) : String :=
  (Parts.ofBits x.toBits.toNat).text

/-- The exact value of a floating-point number, zero when it has none. -/
def floatValue (x : Float) : Rat :=
  match Parts.ofBits x.toBits.toNat with
  | .finite negative b =>
    let magnitude : Rat := (b.m : Rat) * (2 : Rat) ^ b.q
    if negative then -magnitude else magnitude
  | _ => 0

end FactModel.Number
