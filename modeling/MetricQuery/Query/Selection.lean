import MetricQuery.Query.Failure
import MetricQuery.Registry
import MetricQuery.Sql.Statement

/-!
# Selections

The definitions that a registry resolved for a plan, with the expressions found fit to stand in a
statement. The table of the first metric is the primary one.
-/

namespace MetricQuery

open Sql

/-- A dimension and its expression. -/
structure SelectedDimension where
  dimension : Dimension
  expression : Fragment

namespace SelectedDimension

/-- The column it gives: time is cut into buckets if these are coarser than days. -/
def expr (d : SelectedDimension) (p : Plan) : Expr :=
  match p.coarseBucket with
  | some b => if d.dimension.isTime then .bucketed b d.expression else .fragment d.expression
  | none => .fragment d.expression

def column (d : SelectedDimension) (p : Plan) : Column := ⟨d.expr p, d.dimension.slug⟩

end SelectedDimension

/-- Resolved definitions. -/
structure Selection where
  primaryTable : String
  metrics : List (Metric × Fragment)
  dimensions : List SelectedDimension

namespace Selection

/-- The fragment of a text, if the registry vouches for it. -/
def vouched (t : SqlText) : Except Failure Fragment :=
  match t.fragment? with
  | some f => .ok f
  | none => .error .untrustedSql

def ofMetric (m : Metric) : Except Failure (Metric × Fragment) :=
  (vouched m.expression).map fun f => (m, f)

def ofDimension (d : Dimension) : Except Failure SelectedDimension :=
  (vouched d.expression).map fun f => ⟨d, f⟩

/-- The selection of these definitions; metrics are looked at before dimensions. -/
def ofDefinitions (primary : String) (metrics : List Metric) (dimensions : List Dimension) :
    Except Failure Selection := do
  let metrics ← metrics.mapM ofMetric
  let dimensions ← dimensions.mapM ofDimension
  return ⟨primary, metrics, dimensions⟩

/-- The dimension of a slug; of several the last. -/
def find? (s : Selection) (slug : String) : Option SelectedDimension :=
  s.dimensions.reverse.find? fun d => d.dimension.slug == slug

/-- What a range of dates is about: the first time dimension of the primary table, or else the
column set aside for it. -/
def timeSubject (s : Selection) (timeColumn : String) : Subject :=
  match s.dimensions.find? fun d =>
      d.dimension.isTime && d.dimension.table.text == s.primaryTable with
  | some d => .fragment d.expression
  | none => .column timeColumn

def columns (s : Selection) (p : Plan) : List Column :=
  s.metrics.map (fun m => ⟨.fragment m.2, m.1.slug⟩) ++ s.dimensions.map (·.column p)

def groups (s : Selection) (p : Plan) : List Expr := s.dimensions.map (·.expr p)

end Selection

end MetricQuery
