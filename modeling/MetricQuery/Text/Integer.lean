import MetricQuery.Text.Blank
import MetricQuery.Text.DecimalDigit

/-!
# Whole numbers written as text

White space around a number does not count. A sign may come first, then zeros in any number, with
underscores among and after them, then the number itself. Single underscores may part its digits,
and a fraction of zeros may end it: `" -00_1_000.00 "` is `-1000`. After the zeros a minus sign may
still come if there was none before: `"00-7"` is `-7`. A number of more than `maxDigits` digits is
not read, with a sign or without. Its length is named as the reason only where the text begins with
those digits or with a minus sign and them; a text with anything else before them is merely
unreadable.
-/

namespace MetricQuery.Text

/-- Why a text is not read as a whole number. -/
inductive IntegerFault where
  | unreadable
  | tooLong
  deriving DecidableEq, Repr

/-- The most digits of a number; a sign does not count. -/
def maxDigits : Nat := 4300

/-! ## What counts of a text -/

/-- Passes over zeros and underscores, of which `last` was one. It is kept where no other digit
comes before the end or the point. -/
def dropZeros (last : Char) : List Char → Option (List Char)
  | [] => some [last]
  | c :: rest =>
    if c = '0' ∨ c = '_' then dropZeros c rest
    else if c = '.' then some (last :: c :: rest)
    else if c.isDigit ∨ c = '-' then some (c :: rest)
    else none

/-- What counts of a text that begins with a digit. -/
def significant : List Char → Option (List Char)
  | [] => none
  | c :: rest =>
    if c = '0' then dropZeros c rest
    else if c.isDigit then some (c :: rest)
    else none

/-- A text without a final fraction of zeros. -/
def dropZeroFraction (cs : List Char) : List Char :=
  match cs.dropWhile (· != '.') with
  | _ :: z :: zs => if (z :: zs).all (· == '0') then cs.takeWhile (· != '.') else cs
  | _ => cs

/-- Every underscore is followed by something else. -/
def isParted : List Char → Bool
  | [] => true
  | [c] => c != '_'
  | c :: d :: rest => !(c == '_' && d == '_') && isParted (d :: rest)

/-- A text without the underscores that part it. -/
def dropUnderscores (cs : List Char) : List Char :=
  if isParted cs then cs.filter (· != '_') else cs

/-! ## Reading -/

/-- The number that digits write, the first of them zero only when it stands alone. -/
def magnitude? (digits : List Char) : Option Nat :=
  if digits = ['0'] then some 0
  else if digits = [] ∨ digits.head? = some '0' then none
  else if digits.all Char.isDigit ∧ digits.length ≤ maxDigits then some (digitsValue digits)
  else none

/-- The number after a minus sign or without one. -/
def signed? : List Char → Option Int
  | '-' :: digits => (magnitude? digits).map fun n => -(n : Int)
  | digits => (magnitude? digits).map Int.ofNat

/-- The number that begins with the characters `sign`. -/
def integerAfter? (sign cs : List Char) : Option Int :=
  (significant cs).bind fun cs => signed? (sign ++ dropUnderscores (dropZeroFraction cs))

/-- The number that a text writes, white space around it aside. -/
def integer? (cs : List Char) : Option Int :=
  match trimWhite cs with
  | '-' :: cs => integerAfter? ['-'] cs
  | '+' :: cs => integerAfter? [] cs
  | cs => integerAfter? [] cs

/-- More digits than are read come first, and the first of them is not zero. -/
def isOverlong (cs : List Char) : Bool :=
  cs.head? != some '0' && maxDigits < (cs.takeWhile Char.isDigit).length

/-- Why a text that is not read is not. -/
def fault : List Char → IntegerFault
  | '-' :: cs => if isOverlong cs then .tooLong else .unreadable
  | cs => if isOverlong cs then .tooLong else .unreadable

/-- The whole number that a text writes. -/
def integer (s : String) : Except IntegerFault Int :=
  match integer? s.toList with
  | some n => .ok n
  | none => .error (fault s.toList)

end MetricQuery.Text
