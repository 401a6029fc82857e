import MetricQuery.Decimal.Binary64

/-!
# Shortest decimals

The decimal of a positive float is the one of fewest digits that reads back as that float, and of
those the nearest to it. For one digit, two digits, and so on, only the two neighbours of the value
on the grid of that many digits need a look: if any point of a grid reads back, one of them does.
-/

namespace MetricQuery

/-- A positive decimal number `digits * 10 ^ scale`. -/
structure Decimal where
  digits : Nat
  scale : Int
  deriving Repr, DecidableEq

namespace Decimal

/-- Ten to the power `n`. -/
def tenPow (n : Nat) : Nat := Nat.pow 10 n

/-- The number of decimal digits of a number, at least one. -/
def digitCount (n : Nat) : Nat := (Nat.toDigits 10 n).length

/-- The power of ten of the leading digit of `num / den`. -/
def leadingPower (num den : Nat) : Int :=
  if den ≤ num then (digitCount (num / den) : Int) - 1
  else -(digitCount (den / num) : Int)

/-- The neighbour of `num / den` on the grid of multiples of `10 ^ grid` that lies in the interval
from `lo / den` to `hi / den`, if any; of two the nearer, of two as near the even one. -/
def onGrid (num lo hi den : Nat) (closed : Bool) (grid : Int) : Option Decimal :=
  let up := tenPow (-grid).toNat
  let den := den * tenPow grid.toNat
  let inside (d : Nat) : Bool :=
    if closed then lo * up ≤ d * den && d * den ≤ hi * up
    else lo * up < d * den && d * den < hi * up
  let below := num * up / den
  let remainder := num * up % den
  let preferBelow := 2 * remainder < den || (2 * remainder == den && below % 2 == 0)
  let nearFirst := if preferBelow then [below, below + 1] else [below + 1, below]
  (nearFirst.find? inside).map fun d => ⟨d, grid⟩

/-- Tries grids of more and more digits, `digits` of them so far, `fuel` grids at most. -/
def search (num lo hi den : Nat) (closed : Bool) (lead : Int) : Nat → Nat → Option Decimal
  | 0, _ => none
  | fuel + 1, digits =>
    match onGrid num lo hi den closed (lead - digits) with
    | some d => some d
    | none => search num lo hi den closed lead fuel (digits + 1)

/-- The shortest decimal that reads back as a float of a positive significand. Seventeen digits tell
any two floats apart. -/
def shortest (x : Binary64) : Decimal :=
  let quarter := twoPow (x.exponent - 2).toNat
  let den := twoPow (2 - x.exponent).toNat
  let num := 4 * x.significand * quarter
  let lo := (4 * x.significand - if x.narrowBelow then 1 else 2) * quarter
  let hi := (4 * x.significand + 2) * quarter
  (search num lo hi den (x.significand % 2 == 0) (leadingPower num den) 17 0).getD ⟨num, 0⟩

end Decimal

end MetricQuery
