import MetricQuery.Plan.Basic
import MetricQuery.Sql.Fragment

/-!
# Metrics, dimensions and lenses

What a catalog defines: metrics with the aggregate behind them, dimensions with the column behind
them, and lenses, which show only a part of the catalog to an audience.
-/

namespace MetricQuery

/-- How the value of a metric is presented. -/
inductive MetricType where
  | currency
  | number
  | percent
  | duration
  deriving DecidableEq, Repr

namespace MetricType

def name : MetricType → String
  | currency => "currency"
  | number => "number"
  | percent => "percent"
  | duration => "duration"

def all : List MetricType := [currency, number, percent, duration]

end MetricType

/-- The type of a dimension's column. -/
inductive ColumnType where
  | string
  | numeric
  | date
  | timestamp
  | boolean
  deriving DecidableEq, Repr

namespace ColumnType

def name : ColumnType → String
  | string => "string"
  | numeric => "numeric"
  | date => "date"
  | timestamp => "timestamp"
  | boolean => "boolean"

def all : List ColumnType := [string, numeric, date, timestamp, boolean]

/-- The comparisons that make sense on a column: texts have no order, numbers and dates no parts,
instants are not listed, and truth values are equal or not. -/
def operators : ColumnType → List Operator
  | string => [.equals, .oneOf, .contains]
  | numeric => [.equals, .oneOf, .atLeast, .atMost, .between]
  | date => [.equals, .oneOf, .atLeast, .atMost, .between]
  | timestamp => [.equals, .atLeast, .atMost, .between]
  | boolean => [.equals]

end ColumnType

/-- A named measure, aggregated. -/
structure Metric where
  slug : String
  /-- The aggregate, such as `SUM(net_sales)`. -/
  expression : SqlText
  table : SqlText
  /-- A condition on the rows that count. -/
  condition : Option SqlText := none
  displayName : String := ""
  description : String := ""
  domain : String := "core"
  type : MetricType := .number
  format : Option String := none
  unit : Option String := none
  /-- The dimensions without which the metric means nothing. -/
  requires : List String := []
  /-- The metrics it cannot stand beside. -/
  incompatible : List String := []
  active : Bool := true
  experimental : Bool := false
  deriving DecidableEq, Repr

/-- The part of a dimension that measures time: the names of the bucket sizes it lists, if any. -/
structure TimeAxis where
  buckets : Option (List String) := none
  deriving DecidableEq, Repr

/-- A named attribute to group and filter by. -/
structure Dimension where
  slug : String
  /-- The column or expression, such as `business_date`. -/
  expression : SqlText
  table : SqlText
  type : ColumnType := .string
  /-- Given for the dimensions that measure time. -/
  time : Option TimeAxis := none
  displayName : String := ""
  active : Bool := true
  deriving DecidableEq, Repr

namespace Dimension

def isTime (d : Dimension) : Bool := d.time.isSome

/-- The dimension lists bucket sizes, and this is none of them. -/
def omitsBucket (d : Dimension) (b : Bucket) : Bool :=
  match d.time.bind TimeAxis.buckets with
  | some listed => !listed.contains b.name
  | none => false

end Dimension

/-- A part of the catalog; a list that is not given restricts nothing. -/
structure Lens where
  slug : String
  displayName : String := ""
  metrics : Option (List String) := none
  dimensions : Option (List String) := none
  active : Bool := true
  deriving DecidableEq, Repr

namespace Lens

/-- Whether a list of allowed slugs lets this one through. -/
def allows (allowed : Option (List String)) (slug : String) : Bool :=
  match allowed with
  | none => true
  | some slugs => slugs.contains slug

end Lens

end MetricQuery
