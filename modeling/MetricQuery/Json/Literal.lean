import MetricQuery.Json
import MetricQuery.Decimal.Notation
import MetricQuery.Text.Quoted

/-!
# The text of a JSON value

`Json.literal` writes a value as a literal: strings quoted, lists in brackets, objects in braces,
`None`, `True` and `False` for the constants. `Json.display` is the same, but shows a string bare.

Both write numbers of any length. Whoever writes values out may be held to shorter ones:
`Json.isWritable` says of a value whether all its whole numbers keep to the limit.
-/

namespace MetricQuery

/-- A list of literals between brackets. -/
def bracketed (items : List String) : String := "[" ++ ", ".intercalate items ++ "]"

namespace Json

mutual

/-- The literal of a value. -/
def literal : Json → String
  | null => "None"
  | bool b => if b then "True" else "False"
  | int n => toString n
  | float x => floatText x
  | str s => Text.quoted s
  | arr items => bracketed (literals items)
  | obj members => "\x7b" ++ ", ".intercalate (memberLiterals members) ++ "\x7d"

/-- The literals of the items of a list. -/
def literals : List Json → List String
  | [] => []
  | v :: rest => literal v :: literals rest

/-- The members of an object, key before value. -/
def memberLiterals : Members → List String
  | [] => []
  | (k, v) :: rest => (Text.quoted k ++ ": " ++ literal v) :: memberLiterals rest

end

/-- The text of a value in running text: a string stands for itself. -/
def display : Json → String
  | str s => s
  | v => v.literal

/-! ## Long numbers -/

mutual

/-- The whole numbers in a value, in order. -/
def wholeNumbers : Json → List Int
  | int n => [n]
  | arr items => wholeNumbersOf items
  | obj members => wholeNumbersIn members
  | _ => []

def wholeNumbersOf : List Json → List Int
  | [] => []
  | v :: rest => wholeNumbers v ++ wholeNumbersOf rest

def wholeNumbersIn : Members → List Int
  | [] => []
  | (_, v) :: rest => wholeNumbers v ++ wholeNumbersIn rest

end

/-- The most digits of a whole number that can be written out; a sign does not count. -/
def mostDigits : Nat := 4300

/-- How many digits a whole number is written with. -/
def digitCount (n : Int) : Nat := (Nat.toDigits 10 n.natAbs).length

/-- Every whole number in the value can be written out. -/
def isWritable (v : Json) : Bool := v.wholeNumbers.all fun n => digitCount n ≤ mostDigits

/-- The value holds a whole number that is too long to be written out. -/
def HoldsLong (v : Json) : Prop := ∃ n ∈ v.wholeNumbers, mostDigits < digitCount n

theorem isWritable_eq_false_iff {v : Json} : v.isWritable = false ↔ v.HoldsLong := by
  simp [isWritable, HoldsLong]

end Json

end MetricQuery
