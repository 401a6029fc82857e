import MetricQuery.Json
import MetricQuery.Plan.Basic
import MetricQuery.Sql.Fragment

/-!
# Statements

An aggregate query as data. Text enters only as a fragment or as a name; every value to compare with
stands as a value, and becomes a parameter when the statement is written.
-/

namespace MetricQuery.Sql

/-- The value of an output column. -/
inductive Expr where
  | fragment (f : Fragment)
  /-- The start of the bucket that the value falls into. -/
  | bucketed (bucket : Bucket) (f : Fragment)

/-- An output column and its name. -/
structure Column where
  expr : Expr
  name : String

/-- What a predicate is about. -/
inductive Subject where
  | column (name : String)
  | fragment (f : Fragment)

inductive Comparison where
  | equal
  | atLeast
  | atMost
  deriving DecidableEq, Repr

/-- A condition on rows. -/
inductive Predicate where
  | compare (subject : Subject) (comparison : Comparison) (value : Json)
  | isNull (subject : Subject)
  | isTruth (subject : Subject) (truth : Bool)
  | between (subject : Subject) (low high : Json)
  | oneOf (subject : Subject) (choices : List Json)
  /-- The subject matches a pattern, whatever the case of its letters. -/
  | like (subject : Subject) (pattern : String)
  /-- A whole condition of the registry. -/
  | fragment (f : Fragment)

namespace Predicate

/-- Equality with a value. Nothing equals `null`, so that is a test of its own, and the truth values
are written out. -/
def equality (subject : Subject) : Json → Predicate
  | .null => isNull subject
  | .bool b => isTruth subject b
  | v => compare subject .equal v

/-- An order comparison; `null` and the truth values have no order. -/
def inequality? (subject : Subject) (comparison : Comparison) : Json → Option Predicate
  | .null => none
  | .bool _ => none
  | v => some (compare subject comparison v)

end Predicate

/-- An aggregate query. -/
structure Statement where
  columns : List Column
  table : String
  /-- The conditions on rows. They are written as they stand with `AND` between them, so an `OR` in
  one without brackets binds more weakly than the `AND` beside it. -/
  conditions : List Predicate
  groups : List Expr
  order : List SortKey
  limit : Int

end MetricQuery.Sql
