import FactModel.Json.NumberText

/-!
# Numbers given in other forms

Fields that hold numbers also accept texts and truth values that denote one.
-/

namespace FactModel.Json

/-- An integer that is written with a point or an exponent is smaller than this. -/
def integerBound : Nat := 0x8000000000000000

/-- An integer: a number without a fraction, a truth value, or a text that denotes one. -/
def checkInteger (j : Json) : Checked Int :=
  match j with
  | .int n => .fits n
  | .bool b => .fits (if b then 1 else 0)
  | .text s =>
    match readInteger s.toList with
    | .ok n => .fits n
    | .error defect => .defect defect
  | .decimal d =>
    let value := Number.floatValue d.toFloat
    if !d.toFloat.isFinite then .defect .notFinite
    else if value.den ≠ 1 then .defect .fraction
    else if integerBound ≤ value.num.natAbs then .defect .integerSize
    else .fits value.num
  | .nan | .infinite _ => .defect .notFinite
  | _ => .defect .notInteger

/-- An integer, or nothing. -/
def checkIntegerOrNull : Json → Checked (Option Int)
  | .null => .fits none
  | j => some <$> j.checkInteger

/-- A number, a truth value, or a text that denotes a number. -/
def checkNumber (j : Json) : Checked Float :=
  match j with
  | .bool b => .fits (if b then 1.0 else 0.0)
  | .text s =>
    match readNumber? s.toList with
    | some x => .fits x
    | none => .defect .numberText
  | _ =>
    match j.asFloat? with
    | some x => if j.asInt?.isSome ∧ !x.isFinite then .defect .notNumber else .fits x
    | none => .defect .notNumber

end FactModel.Json
