import MetricQuery.Query.Restriction
import MetricQuery.Query.Run
import MetricQuery.Query.Warning

/-!
# Compiling requests

`compile` turns a request into a query. A plan without metrics is turned down at once. Then the
registry judges the plan, and what it resolved becomes a statement: the trust in its text is checked
first, then the range of dates, then the filters. The steps are a run (`Request.steps`), and its
report holds the outcome and the trace.
-/

namespace MetricQuery

open Sql

/-! ## Queries from definitions -/

/-- The query of a request with these definitions. -/
def Query.build (settings : Settings) (request : Request) (primary : String)
    (metrics : List Metric) (dimensions : List Dimension) : Except Failure Query := do
  let plan := request.plan
  let selection ← Selection.ofDefinitions primary metrics dimensions
  let conditions ← Restriction.all settings request metrics selection
  let limit := Settings.rowLimit plan.limit settings.defaultRows settings.maxRows
  return {
    metrics, dimensions
    primaryTable := primary
    joinTables := ((TableUse.foreign primary metrics dimensions).map TableUse.table).eraseDups
    warnings := (Warning.all primary plan metrics dimensions).map Warning.message
    limit := some limit
    statement := {
      columns := selection.columns plan
      table := primary
      conditions
      groups := selection.groups plan
      order := plan.order metrics dimensions
      limit } }

/-- What is logged about a query made for a plan with this cap on its rows. -/
def Query.log (q : Query) (requested : Option Int) : List LogEvent :=
  let clamped :=
    match requested with
    | some n => if n ≠ q.statement.limit then [.limitClamped n q.statement.limit] else []
    | none => []
  let warned := if q.warnings.isEmpty then [] else [.warned q.warnings]
  clamped ++ warned ++ [.compiled q.primaryTable q.params.length]

/-! ## Verdicts -/

/-- Why a registry refused a plan, in one line. -/
def Verdict.reason (v : Verdict) : String :=
  let reasons := "; ".intercalate v.errors
  if reasons.isEmpty then "Plan failed registry validation" else reasons

/-- What a registry makes of a plan, if that is a query's worth of definitions. -/
def Consultation.resolve (c : Consultation) : Except Failure (Metric × Verdict) :=
  match c.answer with
  | .error text => .error (.registry text)
  | .ok verdict =>
    if verdict.valid then
      match verdict.metrics with
      | [] => .error (.compile .nothingResolved)
      | first :: _ => .ok (first, verdict)
    else .error (.compile (.refused verdict.reason))

/-- What is logged when a registry has been asked. -/
def Consultation.events (c : Consultation) : List LogEvent :=
  match c.resolve with
  | .error (.compile (.refused reason)) => c.log ++ [.refused reason]
  | _ => c.log

/-! ## Reports -/

/-- The steps from a request to its query. -/
def Request.steps (registry : Registry) (settings : Settings) (request : Request) :
    Run Query := do
  let plan := request.plan
  if plan.metrics.isEmpty then throw (.compile .noMetrics)
  Run.log [.compiling plan.metrics plan.dimensions plan.filters.length]
  let consultation ← registry.ask plan request.lens
  Run.log consultation.events
  let (first, verdict) ← consultation.resolve
  let q ← Query.build settings request first.table.text verdict.metrics verdict.dimensions
  Run.log (q.log plan.limit)
  return q

/-- Compiles a request. -/
def compile (registry : Registry) (settings : Settings) (request : Request) : Report :=
  (request.steps registry settings).report

/-- Compiles a request given as a JSON value. -/
def compileJson (registry : Registry) (settings : Settings) (input : Json) : Report :=
  match Request.read input with
  | .accepted request => compile registry settings request
  | .rejected issues => { outcome := .error (.compile (.invalidPlan Request.title issues)) }

end MetricQuery
