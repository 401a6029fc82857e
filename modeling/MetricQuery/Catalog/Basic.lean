import MetricQuery.Catalog.SlugMap

/-!
# Catalogs

A catalog of metrics, dimensions and lenses, and the slugs it lists. Inactive definitions are known
but not listed.
-/

namespace MetricQuery

structure Catalog where
  metrics : SlugMap Metric := .empty
  dimensions : SlugMap Dimension := .empty
  lenses : SlugMap Lens := .empty

namespace Catalog

/-- The catalog of these definitions; of two with one slug the later counts. -/
def ofLists (metrics : List Metric) (dimensions : List Dimension) (lenses : List Lens) : Catalog :=
  ⟨.ofList metrics, .ofList dimensions, .ofList lenses⟩

/-- The slugs of the active metrics, of all domains or of one. -/
def metricSlugs (c : Catalog) (domain : Option String) : List String :=
  (c.metrics.entries.filter fun m => m.active && domain.all (m.domain == ·)).map Metric.slug

/-- The slugs of the active dimensions. -/
def dimensionSlugs (c : Catalog) : List String :=
  (c.dimensions.entries.filter Dimension.active).map Dimension.slug

/-- The lens of this slug, if it is active. -/
def activeLens? (c : Catalog) (slug : String) : Option Lens :=
  (c.lenses.find? slug).filter Lens.active

end Catalog

end MetricQuery
