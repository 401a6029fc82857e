import MetricQuery.Decimal.Shortest

/-!
# Floats as text

A float is written with the fewest digits that read back. The point is set in place when the leading
power of ten is at least `-4` and below `16`; otherwise the number is written with an exponent of at
least two digits. A number without fraction keeps `.0` unless it has an exponent.
-/

namespace MetricQuery

namespace Decimal

/-- The digits without trailing zeros. -/
def significantDigits (d : Decimal) : List Char :=
  ((Nat.toDigits 10 d.digits).reverse.dropWhile (· == '0')).reverse

/-- The power of ten of the leading digit. -/
def leadingExponent (d : Decimal) : Int := (digitCount d.digits : Int) - 1 + d.scale

/-- Digits with the point in place, for a number whose leading digit stands at `10 ^ lead`. -/
def positional (digits : List Char) (lead : Int) : List Char :=
  if lead < 0 then
    '0' :: '.' :: List.replicate (-lead - 1).toNat '0' ++ digits
  else
    let whole := lead.toNat + 1
    let fraction := digits.drop whole
    digits.take whole ++ List.replicate (whole - digits.length) '0' ++
      '.' :: (if fraction.isEmpty then ['0'] else fraction)

/-- One digit before the point, and the exponent. -/
def scientific (digits : List Char) (lead : Int) : List Char :=
  let exponent := Nat.toDigits 10 lead.natAbs
  digits.take 1 ++ (if digits.length ≤ 1 then [] else '.' :: digits.drop 1) ++
    'e' :: (if lead < 0 then '-' else '+') ::
      (List.replicate (2 - exponent.length) '0' ++ exponent)

/-- The text of a positive decimal. -/
def write (d : Decimal) : List Char :=
  let lead := d.leadingExponent
  if -4 ≤ lead ∧ lead < 16 then positional d.significantDigits lead
  else scientific d.significantDigits lead

end Decimal

/-- The text of a float. -/
def floatText (x : Float) : String :=
  match FloatClass.ofFloat x with
  | .nan => "nan"
  | .infinite negative => if negative then "-inf" else "inf"
  | .finite value =>
    let magnitude :=
      if value.significand = 0 then ['0', '.', '0'] else (Decimal.shortest value).write
    String.ofList (if value.negative then '-' :: magnitude else magnitude)

end MetricQuery
