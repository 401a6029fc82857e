import MetricQuery.Proofs.Steps
import MetricQuery.Query.Compile

/-!
# Compilations that give a query

`compile` gives a query only if every step before it succeeded. A `Compilation` holds what those
steps gave: the verdict of the registry, the selection, the conditions. Statements about queries
start from `exists_compilation` and need not look into `compile` again.
-/

namespace MetricQuery

open Sql

/-! ## Selections -/

namespace Selection

theorem vouched_eq_ok {t : SqlText} {f : Fragment} : vouched t = .ok f ↔ f.source = t := by
  unfold vouched SqlText.fragment?
  constructor
  · intro h
    split at h
    · next f' hf =>
      obtain rfl : f' = f := by simpa using h
      exact SqlText.source_of_fragment? hf
    · simp at h
  · rintro rfl
    simp [f.trusted]

/-- A selection of these definitions, each with its own expression. -/
structure Resolves (s : Selection) (primary : String) (metrics : List Metric)
    (dimensions : List Dimension) : Prop where
  primaryTable : s.primaryTable = primary
  metrics : s.metrics.map Prod.fst = metrics
  dimensions : s.dimensions.map SelectedDimension.dimension = dimensions
  metric_source : ∀ m ∈ s.metrics, m.2.source = m.1.expression
  dimension_source : ∀ d ∈ s.dimensions, d.expression.source = d.dimension.expression

theorem resolves_of_ofDefinitions {primary : String} {metrics : List Metric}
    {dimensions : List Dimension} {s : Selection}
    (h : ofDefinitions primary metrics dimensions = .ok s) :
    s.Resolves primary metrics dimensions := by
  obtain ⟨ms, hms, h⟩ := bind_eq_ok.1 h
  obtain ⟨ds, hds, h⟩ := bind_eq_ok.1 h
  obtain rfl : ⟨primary, ms, ds⟩ = s := by simpa [pure, Except.pure] using h
  have hmetrics := map_of_forall₂ (g := Prod.fst)
    (P := fun p => p.2.source = p.1.expression) <| (mapM_eq_ok.1 hms).imp fun m p hp => by
      obtain ⟨f, hf, rfl⟩ := map_eq_ok.1 hp
      exact ⟨rfl, vouched_eq_ok.1 hf⟩
  have hdimensions := map_of_forall₂ (g := SelectedDimension.dimension)
    (P := fun d => d.expression.source = d.dimension.expression) <|
      (mapM_eq_ok.1 hds).imp fun d e he => by
        obtain ⟨f, hf, rfl⟩ := map_eq_ok.1 he
        exact ⟨rfl, vouched_eq_ok.1 hf⟩
  exact ⟨rfl, hmetrics.1, hdimensions.1, hmetrics.2, hdimensions.2⟩

end Selection

/-! ## Restrictions -/

namespace Restriction

theorem all_eq_ok {settings : Settings} {request : Request} {metrics : List Metric}
    {selection : Selection} {ps : List Predicate} :
    all settings request metrics selection = .ok ps ↔
      ∃ days ofM ofF, span settings request = .ok days ∧ ofMetrics metrics = .ok ofM ∧
        checkChoices request.plan.filters = .ok () ∧
        ofFilters selection request.plan.filters = .ok ofF ∧
        scope settings request ++
          (days.map (ofSpan (selection.timeSubject settings.timeColumn))).toList ++
          ofM ++ ofF = ps := by
  simp only [all, bind_eq_ok, pure, Except.pure, Except.ok.injEq]
  constructor
  · rintro ⟨days, hdays, ofM, hofM, _, hchoices, ofF, hofF, rfl⟩
    exact ⟨days, ofM, ofF, hdays, hofM, hchoices, hofF, rfl⟩
  · rintro ⟨days, ofM, ofF, hdays, hofM, hchoices, hofF, rfl⟩
    exact ⟨days, hdays, ofM, hofM, (), hchoices, ofF, hofF, rfl⟩

end Restriction

/-! ## Compilations -/

theorem Consultation.resolve_eq_ok {c : Consultation} {first : Metric} {verdict : Verdict} :
    c.resolve = .ok (first, verdict) ↔
      c.answer = .ok verdict ∧ verdict.valid = true ∧ verdict.metrics.head? = some first := by
  unfold resolve
  split
  · next h => simp [h]
  · next v h =>
    rw [h]
    by_cases hv : v.valid
    · cases hm : v.metrics with
      | nil =>
        simp only [hv, if_true, reduceCtorEq, Except.ok.injEq, false_iff]
        rintro ⟨rfl, -, hhead⟩
        simp [hm] at hhead
      | cons m ms =>
        simp only [hv, if_true, Except.ok.injEq, Prod.mk.injEq]
        constructor
        · rintro ⟨rfl, rfl⟩
          simp [hv, hm]
        · rintro ⟨rfl, -, hhead⟩
          simpa [hm] using hhead
    · simp only [hv, if_false, reduceCtorEq, Except.ok.injEq, false_iff, Bool.false_eq_true]
      rintro ⟨rfl, hvalid, -⟩
      exact hv hvalid

/-- The steps of a compilation that gives the query `q`. -/
structure Compilation (registry : Registry) (settings : Settings) (request : Request)
    (q : Query) where
  verdict : Verdict
  first : Metric
  selection : Selection
  conditions : List Predicate
  answer : (registry.consult request.plan request.lens).answer = .ok verdict
  valid : verdict.valid = true
  first_metric : verdict.metrics.head? = some first
  selected : Selection.ofDefinitions first.table.text verdict.metrics verdict.dimensions =
    .ok selection
  restricted : Restriction.all settings request verdict.metrics selection = .ok conditions
  made : q = {
    metrics := verdict.metrics
    dimensions := verdict.dimensions
    primaryTable := first.table.text
    joinTables := ((TableUse.foreign first.table.text verdict.metrics verdict.dimensions).map
      TableUse.table).eraseDups
    warnings := (Warning.all first.table.text request.plan verdict.metrics
      verdict.dimensions).map Warning.message
    limit := some (Settings.rowLimit request.plan.limit settings.defaultRows settings.maxRows)
    statement := {
      columns := selection.columns request.plan
      table := first.table.text
      conditions
      groups := selection.groups request.plan
      order := request.plan.order verdict.metrics verdict.dimensions
      limit := Settings.rowLimit request.plan.limit settings.defaultRows settings.maxRows } }

/-! ## Runs -/

section Runs

variable {registry : Registry} {settings : Settings} {request : Request}

theorem compile_of_noMetrics (h : request.plan.metrics = []) :
    compile registry settings request = { outcome := .error (.compile .noMetrics) } := by
  simp [compile, Run.report, Request.steps, h]

/-- What is logged about an outcome, once the registry has been asked. -/
def eventsOf (requested : Option Int) : Except Failure Query → List LogEvent
  | .ok q => q.log requested
  | .error _ => []

/-- A compilation asks the registry once, and depends on nothing of it but what it is told. -/
theorem compile_of_metrics (h : request.plan.metrics ≠ []) {outcome : Except Failure Query}
    (houtcome : ((registry.consult request.plan request.lens).resolve >>= fun m =>
      Query.build settings request m.1.table.text m.2.metrics m.2.dimensions) = outcome) :
    compile registry settings request = {
      outcome
      log := .compiling request.plan.metrics request.plan.dimensions request.plan.filters.length ::
        ((registry.consult request.plan request.lens).events ++
          eventsOf request.plan.limit outcome)
      consulted := [request.lens] } := by
  subst houtcome
  simp only [compile, Run.report, Request.steps, List.isEmpty_iff, h, if_false]
  -- Whichever step fails, the trace is that of the steps before.
  cases hresolve : (registry.consult request.plan request.lens).resolve with
  | error e =>
    rw [error_bind]
    simp [hresolve, eventsOf]
  | ok m =>
    rw [ok_bind]
    cases hbuild : Query.build settings request m.1.table.text m.2.metrics m.2.dimensions with
    | error e => simp [hresolve, hbuild, eventsOf]
    | ok q => simp [hresolve, hbuild, eventsOf, Except.map]

theorem outcome_compile (h : request.plan.metrics ≠ []) :
    (compile registry settings request).outcome =
      (registry.consult request.plan request.lens).resolve >>=
        fun m => Query.build settings request m.1.table.text m.2.metrics m.2.dimensions := by
  rw [compile_of_metrics h rfl]

theorem consulted_compile (h : request.plan.metrics ≠ []) :
    (compile registry settings request).consulted = [request.lens] := by
  rw [compile_of_metrics h rfl]

theorem log_compile (h : request.plan.metrics ≠ []) :
    (compile registry settings request).log =
      .compiling request.plan.metrics request.plan.dimensions request.plan.filters.length ::
        ((registry.consult request.plan request.lens).events ++
          eventsOf request.plan.limit (compile registry settings request).outcome) := by
  rw [compile_of_metrics h rfl]

end Runs

theorem exists_compilation {registry : Registry} {settings : Settings} {request : Request}
    {q : Query} (h : (compile registry settings request).outcome = .ok q) :
    Nonempty (Compilation registry settings request q) := by
  by_cases hempty : request.plan.metrics = []
  · simp [compile_of_noMetrics hempty] at h
  · rw [outcome_compile hempty] at h
    obtain ⟨⟨first, verdict⟩, hresolve, hbuild⟩ := bind_eq_ok.1 h
    obtain ⟨hanswer, hvalid, hfirst⟩ := Consultation.resolve_eq_ok.1 hresolve
    obtain ⟨selection, hselected, hbuild⟩ := bind_eq_ok.1 hbuild
    obtain ⟨conditions, hrestricted, hmade⟩ := bind_eq_ok.1 hbuild
    exact ⟨verdict, first, selection, conditions, hanswer, hvalid, hfirst, hselected, hrestricted,
      (Except.ok.inj hmade).symm⟩

namespace Compilation

variable {registry : Registry} {settings : Settings} {request : Request} {q : Query}

theorem resolves (c : Compilation registry settings request q) :
    c.selection.Resolves c.first.table.text c.verdict.metrics c.verdict.dimensions :=
  Selection.resolves_of_ofDefinitions c.selected

theorem first_mem (c : Compilation registry settings request q) :
    c.first ∈ c.verdict.metrics := List.mem_of_head? c.first_metric

theorem metrics_eq (c : Compilation registry settings request q) :
    q.metrics = c.verdict.metrics := congrArg (·.metrics) c.made

theorem dimensions_eq (c : Compilation registry settings request q) :
    q.dimensions = c.verdict.dimensions := congrArg (·.dimensions) c.made

theorem primaryTable_eq (c : Compilation registry settings request q) :
    q.primaryTable = c.first.table.text := congrArg (·.primaryTable) c.made

theorem joinTables_eq (c : Compilation registry settings request q) :
    q.joinTables = ((TableUse.foreign c.first.table.text c.verdict.metrics c.verdict.dimensions).map
      TableUse.table).eraseDups :=
  congrArg (·.joinTables) c.made

theorem warnings_eq (c : Compilation registry settings request q) :
    q.warnings = (Warning.all q.primaryTable request.plan c.verdict.metrics
      c.verdict.dimensions).map Warning.message := by
  rw [c.primaryTable_eq]
  exact congrArg (·.warnings) c.made

theorem table_eq (c : Compilation registry settings request q) :
    q.statement.table = q.primaryTable := by
  rw [c.made]

theorem conditions_eq (c : Compilation registry settings request q) :
    q.statement.conditions = c.conditions := congrArg (·.statement.conditions) c.made

theorem columns_eq (c : Compilation registry settings request q) :
    q.statement.columns = c.selection.columns request.plan := congrArg (·.statement.columns) c.made

theorem order_eq (c : Compilation registry settings request q) :
    q.statement.order = request.plan.order q.metrics q.dimensions := by
  rw [c.made]

theorem limit_eq (c : Compilation registry settings request q) :
    q.statement.limit =
      Settings.rowLimit request.plan.limit settings.defaultRows settings.maxRows :=
  congrArg (·.statement.limit) c.made

/-- The verdict is the one the registry gave. -/
theorem verdict_eq (c : Compilation registry settings request q) {verdict : Verdict}
    (h : (registry.consult request.plan request.lens).answer = .ok verdict) :
    c.verdict = verdict :=
  Except.ok.inj (c.answer.symm.trans h)

end Compilation

end MetricQuery
