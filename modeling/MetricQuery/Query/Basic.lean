import MetricQuery.Catalog.Definition
import MetricQuery.Sql.Rendering

/-!
# Queries

A `Query` is a statement with an outline of what it reads. Its text and its parameters come out of
the statement together.
-/

namespace MetricQuery

/-- What a query reads, and what its caller should know. -/
structure Outline where
  metrics : List Metric := []
  dimensions : List Dimension := []
  /-- The table that the query selects from. -/
  primaryTable : String
  /-- The other tables of its definitions. -/
  joinTables : List String := []
  warnings : List String := []
  limit : Option Int := none

/-- A compiled plan. -/
structure Query extends Outline where
  statement : Sql.Statement

namespace Query

def sql (q : Query) : String := q.statement.text

def params (q : Query) : List Json := q.statement.params

end Query

/-- The order of the rows: the sort keys of the plan, or else the first time dimension, or else the
first metric with its largest values on top. -/
def Plan.order (p : Plan) (metrics : List Metric) (dimensions : List Dimension) : List SortKey :=
  match p.sort with
  | some (k :: ks) => k :: ks
  | _ =>
    match dimensions.find? Dimension.isTime with
    | some d => [⟨d.slug, .ascending⟩]
    | none =>
      match metrics with
      | [] => []
      | m :: _ => [⟨m.slug, .descending⟩]

end MetricQuery
