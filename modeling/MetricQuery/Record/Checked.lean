import MetricQuery.Record.Issue

/-!
# Checked values

The outcome of a check is a value or the issues that stand in its way. Independent checks are
combined so that the issues of all of them are kept, in the order of the checks.
-/

namespace MetricQuery

/-- A value that passed its checks, or the issues found. -/
inductive Checked (α : Type) where
  | accepted (value : α)
  | rejected (issues : List Issue)

namespace Checked

variable {α β : Type}

def map (f : α → β) : Checked α → Checked β
  | accepted a => accepted (f a)
  | rejected issues => rejected issues

/-- Both checks are made, and the issues of both are kept. -/
def apply : Checked (α → β) → Checked α → Checked β
  | accepted f, x => x.map f
  | rejected issues, accepted _ => rejected issues
  | rejected issues, rejected more => rejected (issues ++ more)

instance : Applicative Checked where
  pure := accepted
  map := map
  seq f x := apply f (x ())

/-- A further check, made of accepted values only. -/
def andThen (x : Checked α) (f : α → Checked β) : Checked β :=
  match x with
  | accepted a => f a
  | rejected issues => rejected issues

/-- The same check on a part of a larger value. -/
def under (step : Step) : Checked α → Checked α
  | accepted a => accepted a
  | rejected issues => rejected (issues.map (Issue.under step))

/-- A single problem with the value itself. -/
def fail (problem : Problem) : Checked α := rejected [⟨[], problem⟩]

/-- Accepted when there is no issue. -/
def none? : List Issue → Checked Unit
  | [] => accepted ()
  | issues => rejected issues

def issues : Checked α → List Issue
  | accepted _ => []
  | rejected issues => issues

def toOption : Checked α → Option α
  | accepted a => some a
  | rejected _ => none

@[simp] theorem map_accepted (f : α → β) (a : α) : f <$> accepted a = accepted (f a) := rfl

@[simp] theorem map_rejected (f : α → β) (is : List Issue) :
    f <$> (rejected is : Checked α) = rejected is := rfl

@[simp] theorem accepted_seq (f : α → β) (x : Checked α) : accepted f <*> x = f <$> x := rfl

@[simp] theorem rejected_seq_accepted (is : List Issue) (a : α) :
    (rejected is : Checked (α → β)) <*> accepted a = rejected is := rfl

@[simp] theorem rejected_seq_rejected (is js : List Issue) :
    (rejected is : Checked (α → β)) <*> (rejected js : Checked α) = rejected (is ++ js) := rfl

end Checked

end MetricQuery
