import MetricQuery.Explanation
import MetricQuery.Proofs.Restriction

/-!
# Explanations tell of the query

An explanation is drawn from definitions and a plan, and so is a statement, each on its own. Both
decide which expressions are cut into buckets, which filters count, how rows are ordered and which
dates are meant.

**Theorem (`exists_tells`).** The two agree section by section: each entry of the explanation is
about the column, group, predicate or sort key in the same place of the statement, and its dates and
its limit are parameters of the query.

The texts of dates are the delicate part. The explanation repeats what the caller wrote, the
statement binds the dates that were read. They are the same because a date has one text
(`Date.parse_eq_ok_iff`).
-/

namespace MetricQuery

open Sql

/-! ## Entries -/

/-- An entry about the column of a metric: its title, and the aggregate behind it. -/
inductive TellsAggregate (metrics : List Metric) : Column → String → Prop
  | titled (m : Metric) (f : Fragment) (hm : m ∈ metrics) (hf : f.source = m.expression)
      (htitle : m.displayName ≠ "") :
      TellsAggregate metrics ⟨.fragment f, m.slug⟩ (m.displayName ++ " (" ++ f.text ++ ")")
  | untitled (m : Metric) (f : Fragment) (hm : m ∈ metrics) (hf : f.source = m.expression)
      (htitle : m.displayName = "") :
      TellsAggregate metrics ⟨.fragment f, m.slug⟩ (m.slug ++ " (" ++ f.text ++ ")")

/-- An entry about the column of a dimension. It names buckets if the column is cut into these. -/
inductive TellsGroup (dimensions : List Dimension) : Column → String → Prop
  | bucketed (d : Dimension) (b : Bucket) (f : Fragment) (hd : d ∈ dimensions)
      (hf : f.source = d.expression) :
      TellsGroup dimensions ⟨.bucketed b f, d.slug⟩ (d.slug ++ " by " ++ b.name)
  | plain (d : Dimension) (f : Fragment) (hd : d ∈ dimensions) (hf : f.source = d.expression) :
      TellsGroup dimensions ⟨.fragment f, d.slug⟩ d.slug

/-- What an entry puts between the slug of a filter and its operands. -/
def Operator.verb : Operator → String
  | equals => " = "
  | oneOf => " in ("
  | atLeast => " >= "
  | atMost => " <= "
  | between => " between "
  | contains => " contains "

/-- An entry about a filter: its slug, how it compares, and its operands in order. -/
inductive TellsFilter : Filter → String → Prop
  | equals (slug : String) (o : Operand) :
      TellsFilter ⟨slug, .equals o⟩ (slug ++ " = " ++ o.value.literal)
  | oneOf (slug : String) (choices : List Json) :
      TellsFilter ⟨slug, .oneOf choices⟩
        (slug ++ " in (" ++ ", ".intercalate (choices.map Json.literal) ++ ")")
  | atLeast (slug : String) (o : Operand) :
      TellsFilter ⟨slug, .atLeast o⟩ (slug ++ " >= " ++ o.value.display)
  | atMost (slug : String) (o : Operand) :
      TellsFilter ⟨slug, .atMost o⟩ (slug ++ " <= " ++ o.value.display)
  | between (slug : String) (low high : Operand) :
      TellsFilter ⟨slug, .between low high⟩
        (slug ++ " between " ++ low.value.display ++ " and " ++ high.value.display)
  | contains (slug : String) (o : Operand) :
      TellsFilter ⟨slug, .contains o⟩ (slug ++ " contains " ++ o.value.literal)

theorem tellsFilter_describe (f : Filter) : TellsFilter f f.describe := by
  obtain ⟨slug, condition⟩ := f
  cases condition with
  | equals o => exact .equals slug o
  | oneOf choices => exact .oneOf slug choices
  | atLeast o => exact .atLeast slug o
  | atMost o => exact .atMost slug o
  | between low high => exact .between slug low high
  | contains o => exact .contains slug o

/-- No text begins with how two operators compare. -/
theorem Operator.verb_append_inj {op op' : Operator} {s t : String}
    (h : op.verb ++ s = op'.verb ++ t) : op = op' := by
  have hchars := congrArg String.toList h
  simp only [String.toList_append] at hchars
  cases op <;> cases op' <;> first | rfl | simp [verb] at hchars

theorem TellsFilter.exists_operands {f : Filter} {entry : String} (h : TellsFilter f entry) :
    ∃ operands, entry = f.slug ++ (f.condition.operator.verb ++ operands) := by
  cases h with
  | equals slug o => exact ⟨_, String.append_assoc ..⟩
  | oneOf slug choices => exact ⟨_, by simp only [String.append_assoc]; rfl⟩
  | atLeast slug o => exact ⟨_, String.append_assoc ..⟩
  | atMost slug o => exact ⟨_, String.append_assoc ..⟩
  | between slug low high => exact ⟨_, by simp only [String.append_assoc]; rfl⟩
  | contains slug o => exact ⟨_, String.append_assoc ..⟩

/-- Of two filters on a dimension, an entry can be about both only if they compare in one way. -/
theorem TellsFilter.operator_eq {f g : Filter} {entry : String} (hf : TellsFilter f entry)
    (hg : TellsFilter g entry) (hslug : f.slug = g.slug) :
    f.condition.operator = g.condition.operator := by
  obtain ⟨operands, rfl⟩ := hf.exists_operands
  obtain ⟨operands', hentry⟩ := hg.exists_operands
  rw [hslug, String.append_right_inj] at hentry
  exact Operator.verb_append_inj hentry

theorem tellsAggregate_describe {metrics : List Metric} {m : Metric} {f : Fragment}
    (hm : m ∈ metrics) (hf : f.source = m.expression) :
    TellsAggregate metrics ⟨.fragment f, m.slug⟩ m.describe := by
  have htext : m.expression.text = f.text := congrArg SqlText.text hf.symm
  by_cases htitle : m.displayName = ""
  · simpa [Metric.describe, htitle, htext] using TellsAggregate.untitled m f hm hf htitle
  · simpa [Metric.describe, htitle, htext] using TellsAggregate.titled m f hm hf htitle

/-- A column is cut into buckets exactly where the entry says so. -/
theorem tellsGroup_describe {dimensions : List Dimension} {d : SelectedDimension} (p : Plan)
    (hd : d.dimension ∈ dimensions) (hf : d.expression.source = d.dimension.expression) :
    TellsGroup dimensions (d.column p) (d.dimension.describe p) := by
  obtain ⟨d, f⟩ := d
  unfold SelectedDimension.column SelectedDimension.expr Dimension.describe
  cases p.coarseBucket with
  | none => exact .plain d f hd hf
  | some b =>
    by_cases htime : d.isTime = true
    · simpa [htime] using TellsGroup.bucketed d b f hd hf
    · simpa [htime] using TellsGroup.plain d f hd hf

namespace Selection.Resolves

variable {s : Selection} {primary : String} {metrics : List Metric} {dimensions : List Dimension}

theorem tells_aggregates (h : s.Resolves primary metrics dimensions) :
    List.Forall₂ (TellsAggregate metrics)
      (s.metrics.map fun m => ⟨.fragment m.2, m.1.slug⟩) (metrics.map Metric.describe) := by
  have hentries : metrics.map Metric.describe = s.metrics.map fun m => m.1.describe := by
    rw [← h.metrics, List.map_map]
    rfl
  rw [hentries, List.forall₂_map_left_iff, List.forall₂_map_right_iff, List.forall₂_same]
  intro m hm
  have hmem : m.1 ∈ metrics := h.metrics ▸ List.mem_map_of_mem hm
  exact tellsAggregate_describe hmem (h.metric_source m hm)

theorem tells_groups (h : s.Resolves primary metrics dimensions) (p : Plan) :
    List.Forall₂ (TellsGroup dimensions) (s.dimensions.map (·.column p))
      (dimensions.map (·.describe p)) := by
  have hentries : dimensions.map (·.describe p) =
      s.dimensions.map fun d => d.dimension.describe p := by
    rw [← h.dimensions, List.map_map]
    rfl
  rw [hentries, List.forall₂_map_left_iff, List.forall₂_map_right_iff, List.forall₂_same]
  intro d hd
  have hmem : d.dimension ∈ dimensions := h.dimensions ▸ List.mem_map_of_mem hd
  exact tellsGroup_describe p hmem (h.dimension_source d hd)

end Selection.Resolves

/-! ## Filters -/

theorem tells_filters (kept : List (Filter × Dimension)) :
    List.Forall₂ (fun k entry => TellsFilter k.1 entry) kept
      ((kept.map Prod.fst).map Filter.describe) := by
  rw [List.forall₂_map_right_iff, List.forall₂_map_right_iff, List.forall₂_same]
  exact fun k _ => tellsFilter_describe k.1

/-! ## Dates -/

/-- The bounds that the caller wrote are the dates that were read. -/
theorem describe_dates {range : Option DateRange} {days : Option (Date × Date)}
    (h : Option.Rel DateRange.ReadsAs range days) :
    range.map (fun r => r.start ++ " to " ++ r.finish) =
      days.map fun d => d.1.iso ++ " to " ++ d.2.iso := by
  cases h with
  | none => rfl
  | some hreads =>
    rw [Option.map_some, Option.map_some, Date.parse_eq_ok_iff.1 hreads.1,
      Date.parse_eq_ok_iff.1 hreads.2]

/-! ## Parameters and tables -/

theorem Sql.Statement.params_written (s : Statement) :
    s.params = (s.conditions.map Predicate.written).flatMap Prod.snd ++ [.int s.limit] := by
  rw [Statement.params_eq, ← Statement.values_conditionPieces, Statement.conditionPieces,
    Piece.values_join, List.flatMap_map, List.flatMap_map]
  rfl

/-- A query names no table twice. -/
theorem nodup_tables (primary : String) (metrics : List Metric) (dimensions : List Dimension) :
    (primary ::
      ((TableUse.foreign primary metrics dimensions).map TableUse.table).eraseDups).Nodup := by
  refine List.nodup_cons.2 ⟨fun hmem => ?_, nodup_eraseDups _⟩
  obtain ⟨use, huse, htable⟩ := List.mem_map.1 (List.mem_eraseDups.1 hmem)
  have hforeign := (List.mem_filter.1 huse).2
  simp [htable] at hforeign

/-! ## Explanations -/

/-- An explanation tells of a query, whose columns are those of metrics and those of dimensions, and
whose conditions are `r`. -/
structure Explanation.Tells {settings : Settings} {request : Request} {verdict : Verdict}
    (e : Explanation) (q : Query) (metrics dimensions : List Column)
    (r : Restricted settings request q.primaryTable verdict q.statement.conditions) : Prop where
  columns : q.statement.columns = metrics ++ dimensions
  aggregates : List.Forall₂ (TellsAggregate verdict.metrics) metrics e.aggregates
  groups : q.statement.groups = dimensions.map Column.expr
  groupBy : List.Forall₂ (TellsGroup verdict.dimensions) dimensions e.groupBy
  /-- A predicate and an entry in one place are about the filter in that place. -/
  predicates : List.Forall₂ States (retained verdict.dimensions request.plan.filters) r.filters
  filters : List.Forall₂ (fun k entry => TellsFilter k.1 entry)
    (retained verdict.dimensions request.plan.filters) e.filters
  orderBy : e.orderBy = q.statement.order.map fun k => k.slug ++ " " ++ k.direction.keyword
  dateRange : e.dateRange = r.days.map fun d => d.1.iso ++ " to " ++ d.2.iso
  limit : e.limit = some q.statement.limit
  /-- The dates stand behind the tenant and the location, and the limit comes last. -/
  params : q.params = .str request.tenant :: request.location.toList.map .str ++
    r.days.toList.flatMap (fun d => [.str d.1.iso, .str d.2.iso]) ++
    (retained verdict.dimensions request.plan.filters).flatMap (·.1.condition.bound) ++
    [.int q.statement.limit]
  table : q.statement.table = q.primaryTable
  sourceTables : e.sourceTables = q.primaryTable :: q.joinTables
  distinct : e.sourceTables.Nodup
  warnings : e.warnings = q.warnings

/-- The values of a specified condition, part by part. -/
theorem flatMap_specification (settings : Settings) (request : Request) (primary : String)
    (verdict : Verdict) (days : Option (Date × Date)) (texts : List String) :
    (specification settings request primary verdict days texts).flatMap Prod.snd =
      .str request.tenant :: request.location.toList.map .str ++
        days.toList.flatMap (fun d => [.str d.1.iso, .str d.2.iso]) ++
        (retained verdict.dimensions request.plan.filters).flatMap (·.1.condition.bound) := by
  have htexts : (texts.map fun t => (("(" ++ t ++ ")").toList, ([] : List Json))).flatMap Prod.snd =
      [] := by
    simp [List.flatMap_map]
  simp only [specification, List.flatMap_append, List.flatMap_cons, htexts, List.append_nil,
    List.flatMap_map]
  cases request.location <;> rfl

/-- **Explanations tell of the query.** The explanation of a compiled query agrees with its
statement section by section. -/
theorem exists_tells {registry : Registry} {settings : Settings} {request : Request} {q : Query}
    (hmade : (compile registry settings request).outcome = .ok q) :
    ∃ verdict metrics dimensions,
      ∃ r : Restricted settings request q.primaryTable verdict q.statement.conditions,
        (registry.consult request.plan request.lens).answer = .ok verdict ∧
          (Explanation.ofOutline q.toOutline request.plan).Tells q metrics dimensions r := by
  obtain ⟨verdict, first, selection, conditions, hanswer, hvalid, hfirst, hselected, hrestricted,
    rfl⟩ := exists_compilation hmade
  obtain ⟨r⟩ : Nonempty (Restricted settings request first.table.text verdict conditions) :=
    Compilation.restricted_conditions
      ⟨verdict, first, selection, conditions, hanswer, hvalid, hfirst, hselected, hrestricted,
        rfl⟩
  have hresolves := Selection.resolves_of_ofDefinitions hselected
  refine ⟨verdict, _, _, r, hanswer, {
    columns := rfl
    aggregates := hresolves.tells_aggregates
    groups := ?_
    groupBy := hresolves.tells_groups request.plan
    predicates := r.kept
    filters := ?_
    orderBy := rfl
    dateRange := describe_dates r.reads
    limit := rfl
    params := ?_
    table := rfl
    sourceTables := rfl
    distinct := nodup_tables _ _ _
    warnings := rfl }⟩
  · rw [List.map_map]
    rfl
  · have hentries := tells_filters (retained verdict.dimensions request.plan.filters)
    rwa [map_fst_retained] at hentries
  · rw [Query.params, Statement.params_written, ← flatMap_specification]
    exact congrArg (fun l => l.flatMap Prod.snd ++ _) r.written_eq

theorem exists_tells_sample :
    ∃ q, (compile (.constant (.ok sampleVerdict)) {} sampleRequest).outcome = .ok q ∧
      ∃ verdict metrics dimensions,
        ∃ r : Restricted {} sampleRequest q.primaryTable verdict q.statement.conditions,
          ((Registry.constant (.ok sampleVerdict)).consult sampleRequest.plan
            sampleRequest.lens).answer = .ok verdict ∧
          (Explanation.ofOutline q.toOutline sampleRequest.plan).Tells q metrics dimensions r := by
  obtain ⟨q, hq⟩ := exists_sampleQuery
  exact ⟨q, hq, exists_tells hq⟩

end MetricQuery
