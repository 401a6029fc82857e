import MetricQuery.Catalog.Definition

/-!
# Warnings

What may make a query other than its caller meant. A warning never keeps a query from being made.
-/

namespace MetricQuery

/-- A definition that names a table. -/
structure TableUse where
  kind : String
  slug : String
  table : String
  deriving DecidableEq, Repr

namespace TableUse

def ofMetric (m : Metric) : TableUse := ⟨"metric", m.slug, m.table.text⟩
def ofDimension (d : Dimension) : TableUse := ⟨"dimension", d.slug, d.table.text⟩

/-- The definitions that name another table than `primary`, metrics first. -/
def foreign (primary : String) (metrics : List Metric) (dimensions : List Dimension) :
    List TableUse :=
  (metrics.map ofMetric ++ dimensions.map ofDimension).filter fun u => u.table != primary

end TableUse

/-- Something the caller should know. -/
inductive Warning where
  | crossTable (use : TableUse)
  | bucketIgnored (bucket : Bucket)
  | bucketUnlisted (dimension : String) (bucket : Bucket)
  | noDateRange
  | filterSkipped (dimension : String)
  deriving DecidableEq, Repr

namespace Warning

def message : Warning → String
  | crossTable use =>
    "Cross-table " ++ use.kind ++ " '" ++ use.slug ++ "' references " ++ use.table
  | bucketIgnored bucket =>
    "Time granularity '" ++ bucket.name ++ "' ignored: no time dimension selected"
  | bucketUnlisted dimension bucket =>
    s!"Time dimension '{dimension}' does not list granularity '" ++ bucket.name ++ "'"
  | noDateRange => "No date range supplied; query may scan all history"
  | filterSkipped dimension =>
    s!"Filter on '{dimension}' skipped: dimension is not selected"

/-- Warnings about the bucket size: it has no time dimension to cut, or a time dimension lists other
sizes. Days cut nothing, so they need not be listed. -/
def ofBucket (bucket : Option Bucket) (dimensions : List Dimension) : List Warning :=
  match bucket with
  | none => []
  | some b =>
    if dimensions.any Dimension.isTime then
      if b.isCoarse then
        (dimensions.filter (·.omitsBucket b)).map fun d => bucketUnlisted d.slug b
      else []
    else [bucketIgnored b]

/-- All warnings for a plan with these definitions. -/
def all (primary : String) (p : Plan) (metrics : List Metric) (dimensions : List Dimension) :
    List Warning :=
  (TableUse.foreign primary metrics dimensions).map crossTable ++
    ofBucket p.bucket dimensions ++
    (if p.dateRange.isNone then [noDateRange] else []) ++
    (p.filters.filter fun f => !(dimensions.map Dimension.slug).contains f.slug).map
      fun f => filterSkipped f.slug

end Warning

end MetricQuery
