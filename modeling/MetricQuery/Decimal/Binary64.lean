/-!
# The exact value of a float

A finite float is `± significand * 2 ^ exponent`, read off its bits, so that questions about its
value are questions about whole numbers.
-/

namespace MetricQuery

/-- Two to the power `n`. -/
def twoPow (n : Nat) : Nat := Nat.pow 2 n

/-- A finite float: `± significand * 2 ^ exponent`. -/
structure Binary64 where
  negative : Bool
  significand : Nat
  exponent : Int
  /-- Whether the next smaller float is only half a unit away. -/
  narrowBelow : Bool

/-- What a float stands for. -/
inductive FloatClass where
  | nan
  | infinite (negative : Bool)
  | finite (value : Binary64)

/-- Reads the sign, the exponent field and the fraction field of a float. -/
def FloatClass.ofFloat (x : Float) : FloatClass :=
  let bits : Nat := x.toBits.toNat
  let negative : Bool := bits / twoPow 63 == 1
  let field : Nat := bits / twoPow 52 % twoPow 11
  let fraction : Nat := bits % twoPow 52
  if field = 2047 then
    if fraction = 0 then .infinite negative else .nan
  else if field = 0 then
    .finite ⟨negative, fraction, -1074, false⟩
  else
    .finite ⟨negative, twoPow 52 + fraction, (field : Int) - 1075, fraction == 0 && 1 < field⟩

/-- The whole number that the float is, if it is one. -/
def Binary64.toInt? (x : Binary64) : Option Int :=
  let sign : Int := if x.negative then -1 else 1
  if 0 ≤ x.exponent then
    some (sign * (x.significand * twoPow x.exponent.toNat : Nat))
  else
    let unit := twoPow (-x.exponent).toNat
    if x.significand % unit = 0 then some (sign * (x.significand / unit : Nat)) else none

end MetricQuery
