import MetricQuery.Catalog.Basic

/-!
# Objections to a plan

`Catalog.objections` lists all that a catalog has against a plan, rule by rule and none hiding
another:

* slugs of metrics, then of dimensions, that are unknown or inactive, each slug once;
* metrics whose required dimensions are not all selected, each metric once;
* pairs of metrics of which one declares the other incompatible, each pair once;
* an unknown lens, or the slugs outside the lens, each once;
* filters whose operator does not suit their dimension, each filter by itself;
* sort keys that are not selected, each key by itself.

Only active definitions are selected, but the last three rules look at the slugs of the plan.
-/

namespace MetricQuery

/-- Something that a catalog has against a plan. -/
inductive Objection where
  | unknownMetric (slug : String)
  | inactiveMetric (slug : String)
  | unknownDimension (slug : String)
  | inactiveDimension (slug : String)
  | missingDimensions (metric : String) (missing : List String)
  | incompatible (metric other : String)
  | unknownLens (lens : String)
  | metricOutsideLens (metric lens : String)
  | dimensionOutsideLens (dimension lens : String)
  | unsuitedOperator (operator : Operator) (type : ColumnType) (dimension : String)
  | unselectedSortKey (slug : String)
  deriving DecidableEq, Repr

def Objection.message : Objection → String
  | unknownMetric slug => "Unknown metric: " ++ slug
  | inactiveMetric slug => "Metric is inactive: " ++ slug
  | unknownDimension slug => "Unknown dimension: " ++ slug
  | inactiveDimension slug => "Dimension is inactive: " ++ slug
  | missingDimensions metric missing =>
    s!"Metric '{metric}' requires dimension(s): " ++ ", ".intercalate missing
  | incompatible metric other => s!"Metric '{metric}' is incompatible with '{other}'"
  | unknownLens lens => "Unknown lens: " ++ lens
  | metricOutsideLens metric lens => s!"Metric '{metric}' is not allowed in lens '{lens}'"
  | dimensionOutsideLens dimension lens =>
    s!"Dimension '{dimension}' is not allowed in lens '{lens}'"
  | unsuitedOperator operator type dimension =>
    "Operator '" ++ operator.name ++ "' not allowed for " ++ type.name ++
      s!" dimension '{dimension}'"
  | unselectedSortKey slug => s!"Sort key '{slug}' is not a selected metric or dimension"

namespace Catalog

/-! ## Selection -/

/-- The active metrics that a plan selects, each once, in the order of the plan. -/
def selectedMetrics (c : Catalog) (p : Plan) : List Metric :=
  p.metrics.eraseDups.filterMap fun s => (c.metrics.find? s).filter Metric.active

/-- The active dimensions that a plan selects, each once, in the order of the plan. -/
def selectedDimensions (c : Catalog) (p : Plan) : List Dimension :=
  p.dimensions.eraseDups.filterMap fun s => (c.dimensions.find? s).filter Dimension.active

/-! ## Rules -/

/-- What is wrong with a slug as that of a metric. -/
def metricObjection (c : Catalog) (slug : String) : Option Objection :=
  match c.metrics.find? slug with
  | none => some (.unknownMetric slug)
  | some m => if m.active then none else some (.inactiveMetric slug)

/-- What is wrong with a slug as that of a dimension. -/
def dimensionObjection (c : Catalog) (slug : String) : Option Objection :=
  match c.dimensions.find? slug with
  | none => some (.unknownDimension slug)
  | some d => if d.active then none else some (.inactiveDimension slug)

/-- The dimensions that a metric requires and that are not among these slugs. -/
def requirementObjection (selected : List String) (m : Metric) : Option Objection :=
  let missing := m.requires.filter fun s => !selected.contains s
  if missing.isEmpty then none else some (.missingDimensions m.slug missing)

/-- Two pairs are the same but for the order of their members. -/
def samePair (p q : String × String) : Bool := p == q || p == (q.2, q.1)

/-- The pairs of selected metrics of which the first declares the second incompatible; of several
declarations of one pair the first counts. -/
def incompatiblePairs (metrics : List Metric) : List (String × String) :=
  let slugs := metrics.map Metric.slug
  let declared := metrics.flatMap fun m =>
    (m.incompatible.filter slugs.contains).map fun other => (m.slug, other)
  declared.eraseDupsBy samePair

/-- What a lens has against the slugs of a plan. Slugs that the catalog does not know are not its
concern. -/
def lensObjections (c : Catalog) (p : Plan) (slug : String) : List Objection :=
  match c.activeLens? slug with
  | none => [.unknownLens slug]
  | some lens =>
    let metrics := p.metrics.eraseDups.filter fun s =>
      c.metrics.contains s && !Lens.allows lens.metrics s
    let dimensions := p.dimensions.eraseDups.filter fun s =>
      c.dimensions.contains s && !Lens.allows lens.dimensions s
    metrics.map (.metricOutsideLens · slug) ++ dimensions.map (.dimensionOutsideLens · slug)

/-- A filter on a selected dimension must use an operator that suits its column. -/
def filterObjection (c : Catalog) (p : Plan) (f : Filter) : Option Objection :=
  if p.dimensions.contains f.slug then
    match c.dimensions.find? f.slug with
    | none => none
    | some d =>
      let operator := f.condition.operator
      if d.type.operators.contains operator then none
      else some (.unsuitedOperator operator d.type d.slug)
  else none

/-- A sort key must be a slug that the plan selects. -/
def sortObjection (p : Plan) (k : SortKey) : Option Objection :=
  if p.metrics.contains k.slug || p.dimensions.contains k.slug then none
  else some (.unselectedSortKey k.slug)

/-- All that the catalog has against a plan, seen through a lens if one is given. -/
def objections (c : Catalog) (p : Plan) (lens : Option String) : List Objection :=
  let metrics := c.selectedMetrics p
  let dimensions := (c.selectedDimensions p).map Dimension.slug
  p.metrics.eraseDups.filterMap c.metricObjection ++
    p.dimensions.eraseDups.filterMap c.dimensionObjection ++
    metrics.filterMap (requirementObjection dimensions) ++
    (incompatiblePairs metrics).map (fun pair => .incompatible pair.1 pair.2) ++
    (lens.map (c.lensObjections p)).getD [] ++
    p.filters.filterMap (c.filterObjection p) ++
    (p.sort.getD []).filterMap (sortObjection p)

end Catalog

end MetricQuery
