import MetricQuery.Plan.Condition

/-!
# Query plans

A `Plan` says what to compute and how to slice it: slugs of metrics and dimensions, filters, a range
of dates, a bucket size for time, sort keys and a cap on the rows. It holds names and values only,
never SQL.
-/

namespace MetricQuery

/-- The size of the buckets that time is cut into. -/
inductive Bucket where
  | day
  | week
  | month
  deriving DecidableEq, Repr

namespace Bucket

def name : Bucket → String
  | day => "day"
  | week => "week"
  | month => "month"

def all : List Bucket := [day, week, month]

/-- A day is the finest grain, so cutting into days changes nothing. -/
def isCoarse : Bucket → Bool
  | day => false
  | _ => true

end Bucket

inductive Direction where
  | ascending
  | descending
  deriving DecidableEq, Repr

namespace Direction

def name : Direction → String
  | ascending => "asc"
  | descending => "desc"

def keyword : Direction → String
  | ascending => "ASC"
  | descending => "DESC"

def all : List Direction := [ascending, descending]

end Direction

/-- A condition on a dimension. -/
structure Filter where
  slug : String
  condition : Condition

/-- The first and the last day, as the caller wrote them. -/
structure DateRange where
  start : String
  finish : String
  deriving DecidableEq, Repr

/-- A metric or dimension to sort by. -/
structure SortKey where
  slug : String
  direction : Direction := .descending
  deriving DecidableEq, Repr

/-- What to compute, and how to slice it. -/
structure Plan where
  metrics : List String := []
  dimensions : List String := []
  filters : List Filter := []
  dateRange : Option DateRange := none
  bucket : Option Bucket := none
  sort : Option (List SortKey) := none
  limit : Option Int := none

namespace Plan

/-- The bucket size, if it cuts coarser than days. -/
def coarseBucket (p : Plan) : Option Bucket := p.bucket.filter Bucket.isCoarse

end Plan

end MetricQuery
