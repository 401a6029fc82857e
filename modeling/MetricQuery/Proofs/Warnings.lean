import MetricQuery.Proofs.Layout
import MetricQuery.Proofs.Restriction

/-!
# Tables and warnings

A query reads one table and joins none. Where its definitions name other tables, or leave something
of the plan without effect, a warning says so.

**Theorem (`warned_of_compiled`).** The table that is read is that of the first metric. It and the
other tables together are the tables of all definitions, each once, in the order in which they are
first named (`Query.Located`). There is a warning for each definition with another table, then for a
bucket size that has no effect or is not listed, then for a missing range of dates, then for each
filter that has no effect; and there is no other warning (`Query.Warned`).

So a query without warnings reads the table of all its definitions, and every filter of the plan
takes effect (`Plan.Quiet`).
-/

namespace MetricQuery

open Sql

/-! ## Tables -/

/-- The tables of definitions, metrics first, in the order in which they are named. -/
def Verdict.tables (v : Verdict) : List String :=
  v.metrics.map (·.table.text) ++ v.dimensions.map (·.table.text)

theorem TableUse.map_table_foreign (primary : String) (v : Verdict) :
    (foreign primary v.metrics v.dimensions).map table =
      v.tables.filter fun t => !t == primary := by
  have htables : v.tables = (v.metrics.map ofMetric ++ v.dimensions.map ofDimension).map table := by
    rw [Verdict.tables, List.map_append, List.map_map, List.map_map]
    rfl
  rw [htables, List.filter_map]
  rfl

/-- The first table and those of definitions that name another one are all tables. -/
theorem Verdict.eraseDups_tables {v : Verdict} {first : Metric}
    (h : v.metrics.head? = some first) :
    v.tables.eraseDups =
      first.table.text ::
        ((TableUse.foreign first.table.text v.metrics v.dimensions).map
          TableUse.table).eraseDups := by
  obtain ⟨rest, hmetrics⟩ := List.head?_eq_some_iff.1 h
  have htables : v.tables = first.table.text ::
      (rest.map (·.table.text) ++ v.dimensions.map (·.table.text)) := by
    rw [tables, hmetrics]
    rfl
  rw [TableUse.map_table_foreign, htables, List.eraseDups_cons, List.filter_cons_of_neg (by simp)]

/-- The query reads the table of the first metric, and names the other tables. -/
structure Query.Located (v : Verdict) (q : Query) : Prop where
  primary : v.metrics.head?.map (·.table.text) = some q.primaryTable
  tables : FirstOccurrences (q.primaryTable :: q.joinTables) v.tables
  joinTables_nodup : q.joinTables.Nodup
  primary_notMem : q.primaryTable ∉ q.joinTables
  metric_mem : ∀ m ∈ v.metrics, m.table.text = q.primaryTable ∨ m.table.text ∈ q.joinTables
  dimension_mem : ∀ d ∈ v.dimensions, d.table.text = q.primaryTable ∨ d.table.text ∈ q.joinTables
  table : q.statement.table = q.primaryTable
  /-- No other table stands between `FROM` and `WHERE`. -/
  sql : q.statement.SpellsNoHole → ∃ condition limit,
    Piece.Layout q.statement.conditionPieces condition ∧
    Piece.Layout [.hole plainStem (.int q.statement.limit)] limit ∧
    q.sql.toList =
      ("SELECT " ++ ", ".intercalate q.statement.columnTexts ++ " \nFROM " ++
        tableName q.primaryTable ++ " \nWHERE ").toList ++ condition ++
      (Statement.clauseText " GROUP BY " (q.statement.groups.map Expr.text) ++
        Statement.clauseText " ORDER BY " (q.statement.order.map sortText) ++
        " \n LIMIT ").toList ++ limit

theorem Compilation.located {registry : Registry} {settings : Settings} {request : Request}
    {q : Query} (c : Compilation registry settings request q) : q.Located c.verdict := by
  have htables : FirstOccurrences (q.primaryTable :: q.joinTables) c.verdict.tables := by
    have hjoin : q.primaryTable :: q.joinTables = c.verdict.tables.eraseDups := by
      rw [Verdict.eraseDups_tables c.first_metric, c.primaryTable_eq, c.joinTables_eq]
    rw [hjoin]
    exact firstOccurrences_eraseDups c.verdict.tables
  have hmem : ∀ t ∈ c.verdict.tables, t = q.primaryTable ∨ t ∈ q.joinTables := fun t ht =>
    List.mem_cons.1 ((htables.mem t).2 ht)
  obtain ⟨hnotMem, hnodup⟩ := List.nodup_cons.1 htables.nodup
  exact {
    primary := by rw [c.first_metric, c.primaryTable_eq]; rfl
    tables := htables
    joinTables_nodup := hnodup
    primary_notMem := hnotMem
    metric_mem := fun m hm => hmem _ (List.mem_append_left _ (List.mem_map_of_mem hm))
    dimension_mem := fun d hd => hmem _ (List.mem_append_right _ (List.mem_map_of_mem hd))
    table := c.table_eq
    sql := by
      intro hspells
      obtain ⟨condition, limit, hcondition, hlimit, htext⟩ := Statement.exists_layout hspells
      refine ⟨condition, limit, hcondition, hlimit, htext.trans ?_⟩
      rw [Statement.opening, Statement.closing, c.table_eq] }

/-! ## Warnings -/

/-- The dimension lists bucket sizes, and not this one. -/
def Dimension.Omits (d : Dimension) (b : Bucket) : Prop :=
  ∃ axis listed, d.time = some axis ∧ axis.buckets = some listed ∧ b.name ∉ listed

theorem Dimension.omitsBucket_iff {d : Dimension} {b : Bucket} :
    d.omitsBucket b = true ↔ d.Omits b := by
  unfold omitsBucket Omits
  split
  · next listed hlisted =>
    obtain ⟨axis, haxis, hbuckets⟩ := Option.bind_eq_some_iff.1 hlisted
    simp [haxis, hbuckets]
  · next hnone =>
    simp only [Bool.false_eq_true, false_iff]
    rintro ⟨axis, listed, haxis, hbuckets, -⟩
    simp [haxis, hbuckets] at hnone

instance (d : Dimension) (b : Bucket) : Decidable (d.Omits b) :=
  decidable_of_iff _ Dimension.omitsBucket_iff

/-- The warnings about a bucket size, as they are written. -/
inductive BucketTexts (dimensions : List Dimension) : Option Bucket → List String → Prop
  | unasked : BucketTexts dimensions none []
  | ignored (b : Bucket) (htimeless : ∀ d ∈ dimensions, d.isTime = false) :
      BucketTexts dimensions (some b)
        ["Time granularity '" ++ b.name ++ "' ignored: no time dimension selected"]
  | day (htime : ∃ d ∈ dimensions, d.isTime = true) : BucketTexts dimensions (some .day) []
  | coarse (b : Bucket) (htime : ∃ d ∈ dimensions, d.isTime = true) (hb : b = .week ∨ b = .month) :
      BucketTexts dimensions (some b)
        ((dimensions.filter fun d => decide (d.Omits b)).map fun d =>
          "Time dimension '" ++ d.slug ++ "' does not list granularity '" ++ b.name ++ "'")

/-- The warnings about tables, as they are written. -/
def Verdict.tableTexts (v : Verdict) (primary : String) : List String :=
  ((v.metrics.filter fun m => m.table.text != primary).map fun m =>
      "Cross-table metric '" ++ m.slug ++ "' references " ++ m.table.text) ++
    (v.dimensions.filter fun d => d.table.text != primary).map fun d =>
      "Cross-table dimension '" ++ d.slug ++ "' references " ++ d.table.text

/-- The warning about the range of dates, as it is written. -/
def Plan.rangeTexts (p : Plan) : List String :=
  match p.dateRange with
  | none => ["No date range supplied; query may scan all history"]
  | some _ => []

/-- The warnings about filters, as they are written. -/
def Plan.filterTexts (p : Plan) (dimensions : List Dimension) : List String :=
  (p.filters.filter fun f => decide (∀ d ∈ dimensions, d.slug ≠ f.slug)).map fun f =>
    "Filter on '" ++ f.slug ++ "' skipped: dimension is not selected"

namespace Warning

theorem map_message_ofBucket (bucket : Option Bucket) (dimensions : List Dimension) :
    BucketTexts dimensions bucket ((ofBucket bucket dimensions).map message) := by
  cases bucket with
  | none => exact .unasked
  | some b =>
    simp only [ofBucket]
    by_cases htime : dimensions.any Dimension.isTime = true
    · rw [if_pos htime]
      have hcoarse : ∀ b, b = .week ∨ b = .month → BucketTexts dimensions (some b)
          (((dimensions.filter (·.omitsBucket b)).map fun d => bucketUnlisted d.slug b).map
            message) := by
        intro b hb
        have hfilter : (dimensions.filter fun d => d.omitsBucket b) =
            dimensions.filter fun d => decide (d.Omits b) :=
          List.filter_congr fun d _ => by rw [Bool.eq_iff_iff, Dimension.omitsBucket_iff]; simp
        rw [hfilter, List.map_map]
        exact .coarse b (List.any_eq_true.1 htime) hb
      cases b with
      | day => exact .day (List.any_eq_true.1 htime)
      | week => exact hcoarse .week (.inl rfl)
      | month => exact hcoarse .month (.inr rfl)
    · rw [if_neg htime]
      exact .ignored b (by simpa using htime)

theorem map_message_foreign (primary : String) (v : Verdict) :
    ((TableUse.foreign primary v.metrics v.dimensions).map crossTable).map message =
      v.tableTexts primary := by
  rw [TableUse.foreign, List.filter_append, List.map_append, List.map_append, Verdict.tableTexts]
  simp only [List.filter_map, List.map_map]
  rfl

theorem map_message_range (p : Plan) :
    (if p.dateRange.isNone then [noDateRange] else []).map message = p.rangeTexts := by
  unfold Plan.rangeTexts
  cases p.dateRange with
  | none => rfl
  | some _ => rfl

theorem map_message_filters (p : Plan) (dimensions : List Dimension) :
    ((p.filters.filter fun f => !(dimensions.map Dimension.slug).contains f.slug).map
      fun f => filterSkipped f.slug).map message = p.filterTexts dimensions := by
  have hfilter : (p.filters.filter fun f => !(dimensions.map Dimension.slug).contains f.slug) =
      p.filters.filter fun f => decide (∀ d ∈ dimensions, d.slug ≠ f.slug) :=
    List.filter_congr fun f _ => by rw [Bool.eq_iff_iff]; simp
  rw [hfilter, List.map_map]
  rfl

theorem map_message_all (primary : String) (p : Plan) (v : Verdict) :
    ∃ bucket, BucketTexts v.dimensions p.bucket bucket ∧
      (all primary p v.metrics v.dimensions).map message =
        v.tableTexts primary ++ bucket ++ p.rangeTexts ++ p.filterTexts v.dimensions := by
  refine ⟨_, map_message_ofBucket p.bucket v.dimensions, ?_⟩
  rw [all, List.map_append, List.map_append, List.map_append, map_message_foreign,
    map_message_range, map_message_filters]

end Warning

/-! ## Queries without warnings -/

/-- All definitions have one table, and all of the plan takes effect. -/
structure Plan.Quiet (p : Plan) (v : Verdict) (primary : String) : Prop where
  metrics : ∀ m ∈ v.metrics, m.table.text = primary
  dimensions : ∀ d ∈ v.dimensions, d.table.text = primary
  time : ∀ b, p.bucket = some b → ∃ d ∈ v.dimensions, d.isTime = true
  listed : ∀ b, p.bucket = some b → b = .week ∨ b = .month → ∀ d ∈ v.dimensions, ¬ d.Omits b
  range : p.dateRange ≠ none
  filters : ∀ f ∈ p.filters, ∃ d ∈ v.dimensions, d.slug = f.slug

theorem BucketTexts.eq_nil_iff {dimensions : List Dimension} {bucket : Option Bucket}
    {texts : List String} (h : BucketTexts dimensions bucket texts) :
    texts = [] ↔ ∀ b, bucket = some b → (∃ d ∈ dimensions, d.isTime = true) ∧
      (b = .week ∨ b = .month → ∀ d ∈ dimensions, ¬ d.Omits b) := by
  cases h with
  | unasked => simp
  | ignored b htimeless =>
    simp only [List.cons_ne_nil, false_iff]
    intro hall
    obtain ⟨⟨d, hd, htime⟩, -⟩ := hall b rfl
    simp [htimeless d hd] at htime
  | day htime =>
    refine iff_of_true rfl fun b hb => ?_
    obtain rfl := Option.some.inj hb
    exact ⟨htime, by simp⟩
  | coarse b htime hb =>
    simp only [List.map_eq_nil_iff, List.filter_eq_nil_iff, decide_eq_true_eq]
    constructor
    · intro hlisted b' hb'
      obtain rfl := Option.some.inj hb'
      exact ⟨htime, fun _ => hlisted⟩
    · intro hall
      exact (hall b rfl).2 hb

theorem Verdict.tableTexts_eq_nil_iff {v : Verdict} {primary : String} :
    v.tableTexts primary = [] ↔ (∀ m ∈ v.metrics, m.table.text = primary) ∧
      ∀ d ∈ v.dimensions, d.table.text = primary := by
  simp [tableTexts]

theorem Plan.rangeTexts_eq_nil_iff {p : Plan} : p.rangeTexts = [] ↔ p.dateRange ≠ none := by
  unfold rangeTexts
  split
  · next hrange => simp [hrange]
  · next hrange => simp [hrange]

theorem Plan.filterTexts_eq_nil_iff {p : Plan} {dimensions : List Dimension} :
    p.filterTexts dimensions = [] ↔ ∀ f ∈ p.filters, ∃ d ∈ dimensions, d.slug = f.slug := by
  simp [filterTexts]

/-! ## Queries -/

/-- The warnings about the query, each group after the other. -/
structure Query.Warned (p : Plan) (v : Verdict) (q : Query) : Prop where
  warnings : ∃ bucket, BucketTexts v.dimensions p.bucket bucket ∧
    q.warnings =
      v.tableTexts q.primaryTable ++ bucket ++ p.rangeTexts ++ p.filterTexts v.dimensions
  warnings_eq_nil_iff : q.warnings = [] ↔ p.Quiet v q.primaryTable

theorem Compilation.warned {registry : Registry} {settings : Settings} {request : Request}
    {q : Query} (c : Compilation registry settings request q) :
    q.Warned request.plan c.verdict := by
  obtain ⟨bucket, hbucket, htexts⟩ := Warning.map_message_all q.primaryTable request.plan c.verdict
  refine ⟨⟨bucket, hbucket, c.warnings_eq.trans htexts⟩, ?_⟩
  simp only [c.warnings_eq, htexts, List.append_eq_nil_iff, Verdict.tableTexts_eq_nil_iff,
    hbucket.eq_nil_iff, Plan.rangeTexts_eq_nil_iff, Plan.filterTexts_eq_nil_iff]
  constructor
  · rintro ⟨⟨⟨⟨hmetrics, hdimensions⟩, hbucket⟩, hrange⟩, hfilters⟩
    exact {
      metrics := hmetrics
      dimensions := hdimensions
      time := fun b hb => (hbucket b hb).1
      listed := fun b hb => (hbucket b hb).2
      range := hrange
      filters := hfilters }
  · intro h
    exact ⟨⟨⟨⟨h.metrics, h.dimensions⟩, fun b hb => ⟨h.time b hb, h.listed b hb⟩⟩, h.range⟩,
      h.filters⟩

/-- **Tables and warnings.** -/
theorem warned_of_compiled {registry : Registry} {settings : Settings} {request : Request}
    {q : Query} (h : (compile registry settings request).outcome = .ok q) :
    ∃ v, (registry.consult request.plan request.lens).answer = .ok v ∧
      q.metrics = v.metrics ∧ q.dimensions = v.dimensions ∧
      q.Located v ∧ q.Warned request.plan v := by
  obtain ⟨c⟩ := exists_compilation h
  exact ⟨c.verdict, c.answer, c.metrics_eq, c.dimensions_eq, c.located, c.warned⟩

/-- Definitions of three tables, and a time dimension that lists days only. -/
def scatteredVerdict : Verdict where
  valid := true
  metrics :=
    [{ slug := "sales", expression := ⟨"SUM(net)", true⟩, table := ⟨"daily", true⟩ },
      { slug := "staff", expression := ⟨"COUNT(*)", true⟩, table := ⟨"shifts", true⟩ },
      { slug := "hours", expression := ⟨"SUM(hours)", true⟩, table := ⟨"shifts", true⟩ }]
  dimensions :=
    [{ slug := "day", expression := ⟨"business_date", true⟩, table := ⟨"calendar", true⟩
       type := .date, time := some { buckets := some ["day"] } },
      { slug := "region", expression := ⟨"region", true⟩, table := ⟨"daily", true⟩ }]

/-- A request for weeks, over all history, with filters on what is not selected. -/
def scatteredRequest : Request where
  plan :=
    { metrics := ["sales", "staff", "hours"]
      dimensions := ["day", "region"]
      filters :=
        [⟨"colour", .equals ⟨.str "red", Json.isNull_str "red"⟩⟩,
          ⟨"region", .equals ⟨.str "north", Json.isNull_str "north"⟩⟩,
          ⟨"colour", .equals ⟨.str "blue", Json.isNull_str "blue"⟩⟩]
      bucket := some .week }
  tenant := "acme"

/-- Two metrics with one table give two warnings and one table, and two filters with one slug give
two warnings. -/
theorem warned_scatteredRequest :
    ∃ q, (compile (.constant (.ok scatteredVerdict)) {} scatteredRequest).outcome = .ok q ∧
      (∃ v, ((Registry.constant (.ok scatteredVerdict)).consult scatteredRequest.plan
        scatteredRequest.lens).answer = .ok v ∧ q.metrics = v.metrics ∧
        q.dimensions = v.dimensions ∧ q.Located v ∧ q.Warned scatteredRequest.plan v) ∧
      q.primaryTable = "daily" ∧ q.joinTables = ["shifts", "calendar"] ∧ q.warnings.length = 7 ∧
      q.statement.SpellsNoHole := by
  obtain ⟨q, hq, hmade⟩ : ∃ q,
      (compile (.constant (.ok scatteredVerdict)) {} scatteredRequest).outcome = .ok q ∧
      (q.primaryTable, q.joinTables, q.warnings.length,
        decide (∀ t ∈ q.statement.sources, HoleFree t.toList)) =
          ("daily", ["shifts", "calendar"], 7, true) :=
    exists_of_map_toOption (by decide +kernel)
  obtain ⟨hprimary, hrest⟩ := Prod.mk.inj hmade
  obtain ⟨hjoin, hrest⟩ := Prod.mk.inj hrest
  obtain ⟨hlength, hfree⟩ := Prod.mk.inj hrest
  exact ⟨q, hq, warned_of_compiled hq, hprimary, hjoin, hlength,
    Statement.spellsNoHole_of_holeFree (of_decide_eq_true hfree)⟩

end MetricQuery
