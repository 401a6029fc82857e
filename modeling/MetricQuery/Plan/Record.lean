import MetricQuery.Plan.Basic
import MetricQuery.Record.Fields
import MetricQuery.Record.Scalar

/-!
# Plans as records

The records that a plan is read from and written to. A filter is read in two steps: first its
fields, each by itself, then the rule that the operands given are those its operator takes.
-/

namespace MetricQuery

open Record

/-! ## Date ranges and sort keys -/

namespace DateRange

def title : String := "DateRange"

def startKey : Key := .word "start"
def finishKey : Key := .word "end"

def read : Json → Checked DateRange :=
  Record.read title [startKey, finishKey] fun members =>
    DateRange.mk <$> required startKey Read.text members <*> required finishKey Read.text members

def write (style : Style) (r : DateRange) : Json :=
  Record.write style [(startKey, .str r.start), (finishKey, .str r.finish)]

end DateRange

namespace SortKey

def title : String := "SortSpec"

def slugKey : Key := ⟨"metricSlug", "metric_slug"⟩
def directionKey : Key := .word "direction"

def read : Json → Checked SortKey :=
  Record.read title [slugKey, directionKey] fun members =>
    SortKey.mk <$> required slugKey Read.text members
      <*> field directionKey .descending (Read.choice Direction.all Direction.name) members

def write (style : Style) (k : SortKey) : Json :=
  Record.write style [(slugKey, .str k.slug), (directionKey, .str k.direction.name)]

end SortKey

/-! ## Filters -/

/-- How the operands of a filter fail its operator. -/
inductive OperandFault where
  | valuesOnly
  | bothEnds
  | endsOnly
  | valueOnly (operator : Operator)
  deriving DecidableEq, Repr

def OperandFault.message (slug : String) : OperandFault → String
  | valuesOnly => s!"'in' filter on '{slug}' requires 'values' only"
  | bothEnds => s!"'between' filter on '{slug}' requires 'rangeStart' and 'rangeEnd'"
  | endsOnly => s!"'between' filter on '{slug}' takes no 'value' or 'values'"
  | valueOnly operator => "'" ++ operator.name ++ s!"' filter on '{slug}' requires 'value' only"

/-- The fields of a filter before its operands are matched with its operator. -/
structure FilterFields where
  slug : String
  operator : Operator
  value : Json
  values : Option (List Json)
  rangeStart : Json
  rangeEnd : Json

namespace FilterFields

/-- The only operand, when `value` and nothing else is given. -/
def single? (f : FilterFields) : Except OperandFault Operand :=
  match Operand.ofJson? f.value, f.values, Operand.ofJson? f.rangeStart,
      Operand.ofJson? f.rangeEnd with
  | some v, none, none, none => .ok v
  | _, _, _, _ => .error (.valueOnly f.operator)

/-- The condition, when the operands given are exactly those that the operator takes. -/
def condition (f : FilterFields) : Except OperandFault Condition :=
  match f.operator with
  | .equals => f.single?.map .equals
  | .atLeast => f.single?.map .atLeast
  | .atMost => f.single?.map .atMost
  | .contains => f.single?.map .contains
  | .oneOf =>
    match Operand.ofJson? f.value, f.values, Operand.ofJson? f.rangeStart,
        Operand.ofJson? f.rangeEnd with
    | none, some choices, none, none => .ok (.oneOf choices)
    | _, _, _, _ => .error .valuesOnly
  | .between =>
    match Operand.ofJson? f.rangeStart, Operand.ofJson? f.rangeEnd with
    | some low, some high =>
      match Operand.ofJson? f.value, f.values with
      | none, none => .ok (.between low high)
      | _, _ => .error .endsOnly
    | _, _ => .error .bothEnds

def toFilter (f : FilterFields) : Checked Filter :=
  match f.condition with
  | .ok condition => .accepted ⟨f.slug, condition⟩
  | .error fault => .fail (.againstRule (fault.message f.slug))

/-- The fields that write a filter. -/
def ofFilter (f : Filter) : FilterFields :=
  let bare : FilterFields := ⟨f.slug, f.condition.operator, .null, none, .null, .null⟩
  match f.condition with
  | .equals o => { bare with value := o.value }
  | .atLeast o => { bare with value := o.value }
  | .atMost o => { bare with value := o.value }
  | .contains o => { bare with value := o.value }
  | .oneOf choices => { bare with values := some choices }
  | .between low high => { bare with rangeStart := low.value, rangeEnd := high.value }

end FilterFields

namespace Filter

def title : String := "FilterClause"

def slugKey : Key := ⟨"dimensionSlug", "dimension_slug"⟩
def operatorKey : Key := .word "operator"
def valueKey : Key := .word "value"
def valuesKey : Key := .word "values"
def rangeStartKey : Key := ⟨"rangeStart", "range_start"⟩
def rangeEndKey : Key := ⟨"rangeEnd", "range_end"⟩

def keys : List Key := [slugKey, operatorKey, valueKey, valuesKey, rangeStartKey, rangeEndKey]

def readFields : Json → Checked FilterFields :=
  Record.read title keys fun members =>
    FilterFields.mk <$> required slugKey Read.text members
      <*> required operatorKey (Read.choice Operator.all Operator.name) members
      <*> field valueKey .null Read.anything members
      <*> field valuesKey none (Read.optional (Read.list Read.anything)) members
      <*> field rangeStartKey .null Read.anything members
      <*> field rangeEndKey .null Read.anything members

def read (v : Json) : Checked Filter := (readFields v).andThen FilterFields.toFilter

def write (style : Style) (f : Filter) : Json :=
  let fields := FilterFields.ofFilter f
  Record.write style
    [(slugKey, .str fields.slug), (operatorKey, .str fields.operator.name),
      (valueKey, fields.value), (valuesKey, .orNull .arr fields.values),
      (rangeStartKey, fields.rangeStart), (rangeEndKey, fields.rangeEnd)]

end Filter

/-! ## Plans -/

namespace Plan

def title : String := "QueryPlan"

def metricsKey : Key := .word "metrics"
def dimensionsKey : Key := .word "dimensions"
def filtersKey : Key := .word "filters"
def dateRangeKey : Key := ⟨"dateRange", "date_range"⟩
def bucketKey : Key := ⟨"timeGranularity", "time_granularity"⟩
def sortKey : Key := .word "sort"
def limitKey : Key := .word "limit"

def keys : List Key :=
  [metricsKey, dimensionsKey, filtersKey, dateRangeKey, bucketKey, sortKey, limitKey]

def read : Json → Checked Plan :=
  Record.read title keys fun members =>
    Plan.mk <$> field metricsKey [] (Read.list Read.text) members
      <*> field dimensionsKey [] (Read.list Read.text) members
      <*> field filtersKey [] (Read.list Filter.read) members
      <*> field dateRangeKey none (Read.optional DateRange.read) members
      <*> field bucketKey none (Read.optional (Read.choice Bucket.all Bucket.name)) members
      <*> field sortKey none (Read.optional (Read.list SortKey.read)) members
      <*> field limitKey none (Read.optional Read.integer) members

def write (style : Style) (p : Plan) : Json :=
  Record.write style
    [(metricsKey, .arr (p.metrics.map .str)), (dimensionsKey, .arr (p.dimensions.map .str)),
      (filtersKey, .arr (p.filters.map (Filter.write style))),
      (dateRangeKey, .orNull (DateRange.write style) p.dateRange),
      (bucketKey, .orNull (fun b => .str b.name) p.bucket),
      (sortKey, .orNull (fun ks => .arr (ks.map (SortKey.write style))) p.sort),
      (limitKey, .orNull .int p.limit)]

end Plan

end MetricQuery
