import MetricQuery.Decimal.Binary64
import MetricQuery.Json
import MetricQuery.Record.Checked
import MetricQuery.Text.Integer

/-!
# Reading texts, numbers, choices and lists

How the parts of a record are read from JSON values. A text is a string and nothing else. A whole
number may also be given as a truth value, as a float without fraction whose size is below `2 ^ 63`,
or as text.
-/

namespace MetricQuery.Read

variable {α : Type}

def text : Json → Checked String
  | .str s => .accepted s
  | _ => .fail .notText

/-- A whole number. -/
def integer : Json → Checked Int
  | .int n => .accepted n
  | .bool b => .accepted (if b then 1 else 0)
  | .float x =>
    match FloatClass.ofFloat x with
    | .finite value =>
      match value.toInt? with
      | some n => if n.natAbs < twoPow 63 then .accepted n else .fail .oversizedInteger
      | none => .fail .fractional
    | _ => .fail .notFinite
  | .str s =>
    match Text.integer s with
    | .ok n => .accepted n
    | .error .unreadable => .fail .unreadableInteger
    | .error .tooLong => .fail .oversizedInteger
  | _ => .fail .notInteger

/-- A whole number, at least one. -/
def positive (v : Json) : Checked Int :=
  (integer v).andThen fun n => if n < 1 then .fail (.below 1) else .accepted n

/-- One of the values `all`, by its exact name. -/
def choice (all : List α) (name : α → String) : Json → Checked α
  | .str s =>
    match all.find? fun a => name a == s with
    | some a => .accepted a
    | none => .fail (.notChoice (all.map name))
  | _ => .fail (.notChoice (all.map name))

/-- Reads every item; `i` is the position of the first. -/
def items (read : Json → Checked α) (i : Nat) : List Json → Checked (List α)
  | [] => .accepted []
  | v :: rest => List.cons <$> (read v).under (.index i) <*> items read (i + 1) rest

def list (read : Json → Checked α) : Json → Checked (List α)
  | .arr vs => items read 0 vs
  | _ => .fail .notList

/-- `null`, or what `read` reads. -/
def optional (read : Json → Checked α) : Json → Checked (Option α)
  | .null => .accepted none
  | v => some <$> read v

theorem optional_eq (read : Json → Checked α) (v : Json) :
    optional read v = if v.isNull then .accepted none else some <$> read v := by
  cases v <;> rfl

/-- Any value, as it is. -/
def anything (v : Json) : Checked Json := .accepted v

end MetricQuery.Read
