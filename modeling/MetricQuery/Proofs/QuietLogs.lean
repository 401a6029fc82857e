import MetricQuery.Proofs.Noninterference
import MetricQuery.Proofs.Precedence

/-!
# Values stay out of the log

**Theorem (`log_eq_of_agrees`).** Two requests to one catalog that agree in all but their values and
ask for the same number of rows are logged alike, if both give queries or both fail. So the log
tells no tenant, no location, no date, no operand of a filter and no bound on days.

They may fail in different ways. The catalog gives both one verdict (`consult_eq`), so a refusal is
logged alike, and a later failure is not logged at all (`log_of_error`). What is logged about a
query depends on its outline, its limit and the number of its parameters (`Query.log_congr`). The
last is the number of holes in the pieces of the statement, and pieces without their values have as
many (`length_params_eq_of_form`).
-/

namespace MetricQuery

open Sql

/-! ## What is logged -/

section Log

variable {registry : Registry} {settings : Settings} {r : Request}

/-- A compilation that fails after the registry was asked adds nothing to the log. -/
theorem log_of_error {e : Failure} (hne : r.plan.metrics ≠ [])
    (h : (compile registry settings r).outcome = .error e) :
    (compile registry settings r).log =
      .compiling r.plan.metrics r.plan.dimensions r.plan.filters.length ::
        (registry.consult r.plan r.lens).events := by
  rw [log_compile hne, h, eventsOf, List.append_nil]

theorem log_of_ok {q : Query} (hne : r.plan.metrics ≠ [])
    (h : (compile registry settings r).outcome = .ok q) :
    (compile registry settings r).log =
      .compiling r.plan.metrics r.plan.dimensions r.plan.filters.length ::
        ((registry.consult r.plan r.lens).events ++ q.log r.plan.limit) := by
  rw [log_compile hne, h, eventsOf]

end Log

/-- The log of a query depends on its outline, its limit and the number of its parameters. -/
theorem Query.log_congr {q q' : Query} (hlimit : q.statement.limit = q'.statement.limit)
    (hwarnings : q.warnings = q'.warnings) (htable : q.primaryTable = q'.primaryTable)
    (hparams : q.params.length = q'.params.length) (requested : Option Int) :
    q.log requested = q'.log requested := by
  simp only [log, hlimit, hwarnings, htable, hparams]

/-! ## Requests that agree -/

namespace Request.Agrees

variable {c : Catalog} {settings : Settings} {r r' : Request} (h : r.Agrees r')

include h

theorem consult_eq : c.registry.consult r.plan r.lens = c.registry.consult r'.plan r'.lens := by
  simp only [Catalog.registry, h.plan.verdict_eq, h.lens]

theorem query_log_eq (hlimit : r.plan.limit = r'.plan.limit) {q q' : Query}
    (m : Compilation c.registry settings r q) (m' : Compilation c.registry settings r' q') :
    q.log r.plan.limit = q'.log r'.plan.limit := by
  obtain ⟨verdict, first, selection, conditions, hanswer, -, hfirst, hselected, hrestricted,
    rfl⟩ := m
  obtain ⟨verdict', first', selection', conditions', hanswer', -, hfirst', hselected',
    hrestricted', rfl⟩ := m'
  rw [h.consult_eq] at hanswer
  obtain rfl : verdict = verdict' := Except.ok.inj (hanswer.symm.trans hanswer')
  obtain rfl : first = first' := Option.some.inj (hfirst.symm.trans hfirst')
  obtain rfl : selection = selection' := Except.ok.inj (hselected.symm.trans hselected')
  rw [hlimit]
  apply Query.log_congr
  · rfl
  · exact congrArg (List.map Warning.message) (h.plan.warnings_eq _ _ _)
  · rfl
  · exact Statement.length_params_eq_of_form (h.plan.columns_eq _) rfl (h.plan.groups_eq _)
      (h.plan.order_eq _ _) (forms_eq_of_agrees h hrestricted hrestricted')

end Request.Agrees

/-- **Values stay out of the log.** -/
theorem log_eq_of_agrees {c : Catalog} {settings : Settings} {r r' : Request} (h : r.Agrees r')
    (hlimit : r.plan.limit = r'.plan.limit)
    (houtcome : (compile c.registry settings r).outcome.isOk =
      (compile c.registry settings r').outcome.isOk) :
    (compile c.registry settings r).log = (compile c.registry settings r').log := by
  by_cases hne : r.plan.metrics = []
  · rw [compile_of_noMetrics hne, compile_of_noMetrics (h.plan.metrics ▸ hne)]
  have hne' : r'.plan.metrics ≠ [] := h.plan.metrics ▸ hne
  have hfilters : r.plan.filters.length = r'.plan.filters.length := h.plan.filters.length_eq
  cases hmade : (compile c.registry settings r).outcome with
  | error e =>
    rw [hmade] at houtcome
    cases hmade' : (compile c.registry settings r').outcome with
    | error e' =>
      rw [log_of_error hne hmade, log_of_error hne' hmade', h.plan.metrics, h.plan.dimensions,
        hfilters, h.consult_eq]
    | ok q' => simp [hmade', Except.isOk, Except.toBool] at houtcome
  | ok q =>
    rw [hmade] at houtcome
    obtain ⟨q', hmade'⟩ := exists_of_isOk houtcome.symm
    obtain ⟨m⟩ := exists_compilation hmade
    obtain ⟨m'⟩ := exists_compilation hmade'
    rw [log_of_ok hne hmade, log_of_ok hne' hmade', h.plan.metrics, h.plan.dimensions, hfilters,
      h.consult_eq, h.query_log_eq hlimit m m']

/-- The sample with more rows than are ever given. -/
def greedyRequest (tenant : String) (colour : Operand) (range : DateRange) : Request :=
  { sampleRequest with
    plan :=
      { sampleRequest.plan with
        filters := [⟨"colour", .equals colour⟩, ⟨"region", .contains colour⟩]
        dateRange := some range
        limit := some 90000 }
    tenant }

/-- Both give queries, or they fail for different reasons. -/
theorem log_eq_of_greedyRequest :
    ∃ c r r' e e', (compile (Catalog.registry c) {} r).outcome.isOk = true ∧
      (compile c.registry {} r').outcome.isOk = true ∧
      (compile c.registry {} r).log = (compile c.registry {} r').log ∧
      (compile c.registry {} e).outcome.isOk = false ∧
      (compile c.registry {} e').outcome.isOk = false ∧
      (compile c.registry {} e).log = (compile c.registry {} e').log := by
  let c : Catalog := .ofLists sampleVerdict.metrics sampleVerdict.dimensions []
  have hagrees : ∀ {tenant tenant' : String} {o o' : Operand} {range range' : DateRange},
      (∀ b, o.value ≠ .bool b) → (∀ b, o'.value ≠ .bool b) →
        (greedyRequest tenant o range).Agrees (greedyRequest tenant' o' range') := by
    intro tenant tenant' o o' range range' ho ho'
    exact {
      plan := {
        metrics := rfl
        dimensions := rfl
        filters := .cons ⟨rfl, .equals ho ho'⟩ (.cons ⟨rfl, .contains o o'⟩ .nil)
        dateRange := rfl
        bucket := rfl
        sort := rfl }
      location := rfl
      lens := rfl }
  let r := greedyRequest "acme" ⟨.str "red", rfl⟩ ⟨"2024-02-28", "2024-03-01"⟩
  let r' := greedyRequest "\"; DROP TABLE" ⟨.arr [], rfl⟩ ⟨"2023-01-01", "2023-01-31"⟩
  let e := greedyRequest "acme" ⟨.int 5, rfl⟩ ⟨"soon", "later"⟩
  let e' := greedyRequest "other" ⟨.int 7, rfl⟩ ⟨"2020-01-01", "2024-03-01"⟩
  have hr : (compile c.registry {} r).outcome.isOk = true := by decide +kernel
  have hr' : (compile c.registry {} r').outcome.isOk = true := by decide +kernel
  have he : (compile c.registry {} e).outcome.isOk = false := by decide +kernel
  have he' : (compile c.registry {} e').outcome.isOk = false := by decide +kernel
  refine ⟨c, r, r', e, e', hr, hr', ?_, he, he', ?_⟩
  · exact log_eq_of_agrees (hagrees (by simp) (by simp)) rfl (hr.trans hr'.symm)
  · exact log_eq_of_agrees (hagrees (by simp) (by simp)) rfl (he.trans he'.symm)

end MetricQuery
