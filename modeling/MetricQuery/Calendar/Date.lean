import MetricQuery.Text.DecimalDigit
import MetricQuery.Text.Line
import MetricQuery.Text.Quoted

/-!
# Calendar dates

A `Date` is a day of the years 1 to 9999 that the Gregorian calendar has; the bounds are part of the
type. It is written `YYYY-MM-DD`, and `Date.parse` reads exactly that. `Date.number` counts the days
from the first of January of year 1, which is day 1.
-/

namespace MetricQuery

/-! ## Years and months -/

def isLeapYear (year : Nat) : Bool := year % 4 == 0 && (year % 100 != 0 || year % 400 == 0)

/-- The number of days of a month, counted from 1. -/
def monthLength (year month : Nat) : Nat :=
  if month = 2 then (if isLeapYear year then 29 else 28)
  else if month = 4 ∨ month = 6 ∨ month = 9 ∨ month = 11 then 30
  else 31

/-! ## Dates -/

/-- A day that the calendar has. -/
structure Date where
  year : Nat
  month : Nat
  day : Nat
  year_mem : 1 ≤ year ∧ year ≤ 9999
  month_mem : 1 ≤ month ∧ month ≤ 12
  day_mem : 1 ≤ day ∧ day ≤ monthLength year month
  deriving DecidableEq

namespace Date

/-- Year first, then month, then day. -/
def Precedes (a b : Date) : Prop :=
  a.year < b.year ∨ a.year = b.year ∧ (a.month < b.month ∨ a.month = b.month ∧ a.day < b.day)

instance : LT Date := ⟨Precedes⟩

instance (a b : Date) : Decidable (a < b) :=
  inferInstanceAs (Decidable (_ ∨ _ ∧ (_ ∨ _ ∧ _)))

/-- The days of the years before a year. -/
def daysBeforeYear (year : Nat) : Nat :=
  365 * (year - 1) + (year - 1) / 4 - (year - 1) / 100 + (year - 1) / 400

/-- The days of the year before a month. -/
def daysBeforeMonth (year : Nat) : Nat → Nat
  | 0 => 0
  | 1 => 0
  | month + 2 => daysBeforeMonth year (month + 1) + monthLength year (month + 1)

/-- The number of the day, counted from the first day of year 1. -/
def number (d : Date) : Nat :=
  daysBeforeYear d.year + daysBeforeMonth d.year d.month + d.day

/-! ## Writing -/

/-- The last `width` decimal digits of a number. -/
def fixedDigits : Nat → Nat → List Char
  | 0, _ => []
  | width + 1, n => fixedDigits width (n / 10) ++ [Nat.digitChar (n % 10)]

/-- The characters of `YYYY-MM-DD`. -/
def isoChars (d : Date) : List Char :=
  fixedDigits 4 d.year ++ '-' :: fixedDigits 2 d.month ++ '-' :: fixedDigits 2 d.day

/-- The date as `YYYY-MM-DD`. -/
def iso (d : Date) : String := String.ofList d.isoChars

end Date

/-! ## Reading -/

/-- Why a text is not a date. -/
inductive DateFault where
  /-- Not four, two and two digits between hyphens. -/
  | shape
  /-- The right shape, but with a final line break or in digits other than `0` to `9`. -/
  | nonStandard (text : String)
  | year (year : Nat)
  | month
  | day
  deriving DecidableEq

def DateFault.message : DateFault → String
  | shape => "expected YYYY-MM-DD"
  | nonStandard text => "Invalid isoformat string: " ++ Text.quoted text
  | year y => "year " ++ toString y ++ " is out of range"
  | month => "month must be in 1..12"
  | day => "day is out of range for month"

namespace Date

/-- The date with these fields; the year is checked first, the day last. -/
def ofFields (year month day : Nat) : Except DateFault Date :=
  if hy : 1 ≤ year ∧ year ≤ 9999 then
    if hm : 1 ≤ month ∧ month ≤ 12 then
      if hd : 1 ≤ day ∧ day ≤ monthLength year month then .ok ⟨year, month, day, hy, hm, hd⟩
      else .error .day
    else .error .month
  else .error (.year year)

/-- Cuts `YYYY-MM-DD` into its three groups of digits. -/
def cutFields (isDigit : Char → Bool) :
    List Char → Option (List Char × List Char × List Char)
  | [y₁, y₂, y₃, y₄, '-', m₁, m₂, '-', d₁, d₂] =>
    if [y₁, y₂, y₃, y₄, m₁, m₂, d₁, d₂].all isDigit then
      some ([y₁, y₂, y₃, y₄], [m₁, m₂], [d₁, d₂])
    else none
  | _ => none

/-- `YYYY-MM-DD` in the decimal digits of any script, with or without a final line break. -/
def hasShape (cs : List Char) : Bool :=
  (cutFields Text.isDecimalDigit (Text.dropFinalNewline cs)).isSome

/-- Reads a date written as `YYYY-MM-DD` in the digits `0` to `9`. -/
def parse (s : String) : Except DateFault Date :=
  if hasShape s.toList then
    match cutFields Char.isDigit s.toList with
    | some (year, month, day) =>
      ofFields (Text.digitsValue year) (Text.digitsValue month) (Text.digitsValue day)
    | none => .error (.nonStandard s)
  else .error .shape

end Date

end MetricQuery
