import FactModel.Keyed
import FactModel.Number.Count
import FactModel.Number.Shortest

/-!
# JSON values

Values of the JSON data format.  Numbers without a point or an exponent are integers of any size;
the others are kept as the decimals they are written as.  Not-a-number and the infinities are
values too.
-/

namespace FactModel

/-- A signed decimal `mantissa * 10 ^ exponent`. -/
structure Decimal where
  negative : Bool
  mantissa : Nat
  exponent : Int
  deriving DecidableEq, Repr

/-- A decimal at or above ten to this power is infinite as a floating-point number, and one below
ten to its negative is zero. -/
def Decimal.extreme : Int := 400

/-- The floating-point number nearest to a decimal. -/
def Decimal.toFloat (d : Decimal) : Float :=
  let magnitude :=
    if d.mantissa = 0 then 0.0
    else
      let point : Int := (Nat.toDigits 10 d.mantissa).length + d.exponent
      if Decimal.extreme < point then 1.0 / 0.0
      else if point < -Decimal.extreme then 0.0
      else Float.ofScientific d.mantissa (d.exponent < 0) d.exponent.natAbs
  if d.negative then -magnitude else magnitude

/-- A JSON value. -/
inductive Json where
  | null
  | bool (value : Bool)
  | int (value : Int)
  | decimal (value : Decimal)
  | nan
  | infinite (negative : Bool)
  | text (value : String)
  | array (elements : List Json)
  /-- The members in order; no name occurs twice. -/
  | object (members : List (String × Json))
  deriving Repr

namespace Json

/-- The value of a member of an object. -/
def field? (j : Json) (name : String) : Option Json :=
  match j with
  | .object members => Keyed.get? name members
  | _ => none

/-- A text value. -/
def asText? : Json → Option String
  | .text s => some s
  | _ => none

/-- A truth value. -/
def asBool? : Json → Option Bool
  | .bool b => some b
  | _ => none

/-- An integer value. -/
def asInt? : Json → Option Int
  | .int n => some n
  | _ => none

/-- The elements of an array, none for any other value. -/
def elements : Json → List Json
  | .array js => js
  | _ => []

/-- A number as a floating-point number. -/
def asFloat? : Json → Option Float
  | .int n => some (Float.ofInt n)
  | .decimal d => some d.toFloat
  | .nan => some (0.0 / 0.0)
  | .infinite negative => some (if negative then -1.0 / 0.0 else 1.0 / 0.0)
  | _ => none

end Json

end FactModel
