import MetricQuery.Query.Selection
import MetricQuery.Request
import MetricQuery.Settings.Basic
import MetricQuery.Sql.Pattern

/-!
# Restrictions on rows

The conditions of a query, in this order: the tenant; the location, if given; the range of dates, if
given; the conditions of the metrics, each distinct one once; the filters on selected dimensions.
Conditions of metrics are put between brackets, the expressions of dimensions are not.
-/

namespace MetricQuery

open Sql

/-- The predicate that a condition states about a subject. -/
def Condition.predicate (subject : Subject) : Condition → Except Failure Predicate
  | equals o => .ok (.equality subject o.value)
  | oneOf choices => .ok (.oneOf subject choices)
  | atLeast o => ordered (Predicate.inequality? subject .atLeast o.value)
  | atMost o => ordered (Predicate.inequality? subject .atMost o.value)
  | between low high => .ok (.between subject low.value high.value)
  | contains o =>
    if o.value.isWritable then .ok (.like subject (containsPattern o.value.display))
    else .error .unwritten
where
  /-- A comparison that needs an order. -/
  ordered : Option Predicate → Except Failure Predicate
    | some p => .ok p
    | none => .error .unordered

namespace Restriction

/-- Rows of the tenant, and of the location if there is one. -/
def scope (settings : Settings) (request : Request) : List Predicate :=
  .compare (.column settings.tenantColumn) .equal (.str request.tenant) ::
    (request.location.map fun l =>
      Predicate.compare (.column settings.locationColumn) .equal (.str l)).toList

/-- The span of the plan's dates, if it has any. -/
def span (settings : Settings) (request : Request) : Except Failure (Option Span) :=
  match request.plan.dateRange with
  | none => .ok none
  | some range =>
    match Span.check range.start range.finish (request.maxDays.getD settings.maxDays) with
    | .ok span => .ok (some span)
    | .error fault => .error (.compile (.dateRange fault))

/-- Rows of the days of a span. -/
def ofSpan (subject : Subject) (span : Span) : Predicate :=
  .between subject (.str span.first.iso) (.str span.last.iso)

/-- The conditions of metrics that say something, each text once. -/
def metricConditions (metrics : List Metric) : List SqlText :=
  ((metrics.filterMap Metric.condition).filter (·.text != "")).eraseDupsBy
    fun s t => s.text == t.text

/-- Rows that count for the metrics. -/
def ofMetrics (metrics : List Metric) : Except Failure (List Predicate) :=
  (metricConditions metrics).mapM fun t => (Selection.vouched t).map .fragment

/-- No filter, on a selected dimension or not, may choose among no values. -/
def checkChoices (filters : List Filter) : Except Failure Unit :=
  match filters.find? fun f => f.condition.isEmptyChoice with
  | some f => .error (.compile (.emptyChoice f.slug))
  | none => .ok ()

/-- The filters on selected dimensions, with the expressions they are about. -/
def kept (selection : Selection) (filters : List Filter) : List (Filter × Fragment) :=
  filters.filterMap fun f => (selection.find? f.slug).map fun d => (f, d.expression)

/-- Rows that the filters let through. -/
def ofFilters (selection : Selection) (filters : List Filter) : Except Failure (List Predicate) :=
  (kept selection filters).mapM fun (f, e) => f.condition.predicate (.fragment e)

/-- All conditions of a query. -/
def all (settings : Settings) (request : Request) (metrics : List Metric)
    (selection : Selection) : Except Failure (List Predicate) := do
  let span ← span settings request
  let ofMetrics ← ofMetrics metrics
  checkChoices request.plan.filters
  let ofFilters ← ofFilters selection request.plan.filters
  let time := (span.map (ofSpan (selection.timeSubject settings.timeColumn))).toList
  return scope settings request ++ time ++ ofMetrics ++ ofFilters

end Restriction

end MetricQuery
