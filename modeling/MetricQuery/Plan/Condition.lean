import MetricQuery.Json

/-!
# Filter conditions

A filter compares a dimension with its operands. A `Condition` holds exactly the operands that its
operator takes, and an operand is never `null`.
-/

namespace MetricQuery

/-- How a filter compares. -/
inductive Operator where
  | equals
  | oneOf
  | atLeast
  | atMost
  | between
  | contains
  deriving DecidableEq, Repr

namespace Operator

def name : Operator → String
  | equals => "eq"
  | oneOf => "in"
  | atLeast => "gte"
  | atMost => "lte"
  | between => "between"
  | contains => "like"

def all : List Operator := [equals, oneOf, atLeast, atMost, between, contains]

theorem mem_all (op : Operator) : op ∈ all := by cases op <;> decide

end Operator

/-- A value to compare with: anything but `null`. -/
structure Operand where
  value : Json
  present : value.isNull = false

namespace Operand

def ofJson? (v : Json) : Option Operand :=
  if h : v.isNull = false then some ⟨v, h⟩ else none

@[simp] theorem ofJson?_value (o : Operand) : ofJson? o.value = some o := by
  simp [ofJson?, o.present]

end Operand

/-- A comparison with its operands. -/
inductive Condition where
  | equals (operand : Operand)
  | oneOf (choices : List Json)
  | atLeast (operand : Operand)
  | atMost (operand : Operand)
  | between (low high : Operand)
  /-- The text of the operand occurs somewhere, whatever the case of its letters. -/
  | contains (operand : Operand)

namespace Condition

def operator : Condition → Operator
  | equals _ => .equals
  | oneOf _ => .oneOf
  | atLeast _ => .atLeast
  | atMost _ => .atMost
  | between _ _ => .between
  | contains _ => .contains

/-- The values compared with, in order. -/
def operands : Condition → List Json
  | equals o => [o.value]
  | oneOf choices => choices
  | atLeast o => [o.value]
  | atMost o => [o.value]
  | between low high => [low.value, high.value]
  | contains o => [o.value]

/-- A choice among no values at all. -/
def isEmptyChoice : Condition → Bool
  | oneOf choices => choices.isEmpty
  | _ => false

end Condition

end MetricQuery
