/-!
# Issues

What is wrong with a record, and where: a path of keys and list positions, and a problem with a
code and a message.
-/

namespace MetricQuery

/-- One step from a value into one of its parts. -/
inductive Step where
  | key (name : String)
  | index (i : Nat)
  deriving DecidableEq, Repr

/-- What is wrong with a value. -/
inductive Problem where
  /-- Not an object where the record `title` is expected. -/
  | notRecord (title : String)
  | missing
  | unknownKey
  | notText
  | notList
  /-- None of the allowed names. -/
  | notChoice (names : List String)
  | notInteger
  | unreadableInteger
  /-- A whole number, but too large to be taken from a float or a text. -/
  | oversizedInteger
  | fractional
  | notFinite
  | below (least : Int)
  /-- Against a rule of the record, given in words. -/
  | againstRule (text : String)
  deriving DecidableEq, Repr

/-- The names in quotes, with `or` before the last. -/
def alternatives : List String → String
  | [] => ""
  | [a] => s!"'{a}'"
  | [a, b] => s!"'{a}' or '{b}'"
  | a :: rest => s!"'{a}', " ++ alternatives rest

namespace Problem

def code : Problem → String
  | notRecord _ => "model_type"
  | missing => "missing"
  | unknownKey => "extra_forbidden"
  | notText => "string_type"
  | notList => "list_type"
  | notChoice _ => "enum"
  | notInteger => "int_type"
  | unreadableInteger => "int_parsing"
  | oversizedInteger => "int_parsing_size"
  | fractional => "int_from_float"
  | notFinite => "finite_number"
  | below _ => "greater_than_equal"
  | againstRule _ => "value_error"

def message : Problem → String
  | notRecord title => "Input should be a valid dictionary or instance of " ++ title
  | missing => "Field required"
  | unknownKey => "Extra inputs are not permitted"
  | notText => "Input should be a valid string"
  | notList => "Input should be a valid list"
  | notChoice names => "Input should be " ++ alternatives names
  | notInteger => "Input should be a valid integer"
  | unreadableInteger =>
    "Input should be a valid integer, unable to parse string as an integer"
  | oversizedInteger => "Unable to parse input string as an integer, exceeded maximum size"
  | fractional => "Input should be a valid integer, got a number with a fractional part"
  | notFinite => "Input should be a finite number"
  | below least => "Input should be greater than or equal to " ++ toString least
  | againstRule text => "Value error, " ++ text

end Problem

/-- A problem and the part of the value that has it. -/
structure Issue where
  path : List Step
  problem : Problem
  deriving DecidableEq, Repr

namespace Issue

/-- The same issue, seen from one step further out. -/
def under (step : Step) (i : Issue) : Issue := { i with path := step :: i.path }

/-- The headline over the issues of a record. -/
def headline (issues : List Issue) (title : String) : String :=
  let noun := if issues.length = 1 then "error" else "errors"
  toString issues.length ++ " validation " ++ noun ++ " for " ++ title

end Issue

end MetricQuery
