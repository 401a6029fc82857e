/-!
# JSON values

`Json` keeps every difference a caller can make: a whole number is not a float, numbers have any
size, and the members of an object stay in the order they were given.
-/

namespace MetricQuery

/-- A JSON value. -/
inductive Json where
  | null
  | bool (b : Bool)
  | int (n : Int)
  | float (x : Float)
  | str (s : String)
  | arr (items : List Json)
  | obj (members : List (String × Json))
  deriving Inhabited

/-- The members of an object, in order. -/
abbrev Members := List (String × Json)

namespace Json

def isNull : Json → Bool
  | null => true
  | _ => false

@[simp] theorem isNull_iff {v : Json} : v.isNull = true ↔ v = null := by
  cases v <;> simp [isNull]

theorem isNull_str (s : String) : (str s).isNull = false := rfl

/-- A value that may be absent; absence is written `null`. -/
def orNull {α : Type} (f : α → Json) : Option α → Json
  | none => null
  | some a => f a

end Json

end MetricQuery
