import MetricQuery.Json.Literal
import MetricQuery.Query.Basic

/-!
# Explanations

An explanation says in words what a query computes. It is drawn from the outline of the query and
its plan, and does not look at the statement.
-/

namespace MetricQuery

/-- What a query computes, part by part. -/
structure Explanation where
  aggregates : List String := []
  groupBy : List String := []
  filters : List String := []
  orderBy : List String := []
  dateRange : Option String := none
  limit : Option Int := none
  sourceTables : List String := []
  warnings : List String := []
  deriving DecidableEq, Repr

/-- A filter in words. Values that must be met exactly are quoted, bounds are not. Numbers are
written out whatever their length. -/
def Filter.describe (f : Filter) : String :=
  match f.condition with
  | .equals o => f.slug ++ " = " ++ o.value.literal
  | .oneOf choices => f.slug ++ " in (" ++ ", ".intercalate (choices.map Json.literal) ++ ")"
  | .atLeast o => f.slug ++ " >= " ++ o.value.display
  | .atMost o => f.slug ++ " <= " ++ o.value.display
  | .between low high => f.slug ++ " between " ++ low.value.display ++ " and " ++ high.value.display
  | .contains o => f.slug ++ " contains " ++ o.value.literal

/-- A metric by its display name, or else its slug, with the aggregate behind it. -/
def Metric.describe (m : Metric) : String :=
  (if m.displayName.isEmpty then m.slug else m.displayName) ++ " (" ++ m.expression.text ++ ")"

/-- A dimension, with the size of its buckets if they are coarser than days. -/
def Dimension.describe (d : Dimension) (p : Plan) : String :=
  match p.coarseBucket with
  | some b => if d.isTime then d.slug ++ " by " ++ b.name else d.slug
  | none => d.slug

namespace Explanation

/-- The explanation of a query made for a plan. -/
def ofOutline (o : Outline) (p : Plan) : Explanation where
  aggregates := o.metrics.map Metric.describe
  groupBy := o.dimensions.map (·.describe p)
  filters := (p.filters.filter fun f => (o.dimensions.map Dimension.slug).contains f.slug).map
    Filter.describe
  orderBy := (p.order o.metrics o.dimensions).map fun k => k.slug ++ " " ++ k.direction.keyword
  dateRange := p.dateRange.map fun r => r.start ++ " to " ++ r.finish
  limit := o.limit
  sourceTables := o.primaryTable :: o.joinTables
  warnings := o.warnings

/-- A phrase that lists some texts, or nothing if there are none. -/
def phrase (lead separator : String) (texts : List String) : List String :=
  if texts.isEmpty then [] else [lead ++ separator.intercalate texts]

/-- The phrases of the explanation, in order. -/
def phrases (e : Explanation) : List String :=
  phrase "Calculating " ", " e.aggregates ++
    phrase "grouped by " ", " e.groupBy ++
    (match e.dateRange with
      | none => []
      | some range => if range.isEmpty then [] else ["for " ++ range]) ++
    phrase "where " " and " e.filters ++
    phrase "ordered by " ", " e.orderBy ++
    (match e.limit with
      | none => []
      | some n => if n = 0 then [] else ["limited to " ++ toString n ++ " rows"]) ++
    phrase "using data from " ", " e.sourceTables

/-- The explanation as one sentence. -/
def sentence (e : Explanation) : String :=
  if e.phrases.isEmpty then "No query to explain." else " ".intercalate e.phrases ++ "."

end Explanation

end MetricQuery
