import MetricQuery.Proofs.Selected

/-!
# Which plans a catalog accepts

**Theorem (`exists_verdict`).** The verdict of a catalog is valid exactly if the plan keeps all of
its rules (`Accepts`): slugs are known and active, required dimensions are selected, no metric
stands beside one it is incompatible with, the lens shows what is selected, operators suit their
columns, and rows are sorted by what is selected. A valid verdict holds the definitions of the
plan's slugs, and no errors.

Some of the rules are checked on the definitions that were found, others on the slugs of the plan. A
slug that was not found is an objection already. So without objections all slugs were found, and
both kinds of rules speak of the same definitions.
-/

namespace MetricQuery

/-! ## Rules -/

/-- What a catalog asks of a plan that is seen through a lens or not. -/
structure Accepts (metric? : String → Option Metric) (dimension? : String → Option Dimension)
    (lens? : String → Option Lens) (p : Plan) (lens : Option String) : Prop where
  metrics : ∀ s ∈ p.metrics, ∃ m, metric? s = some m ∧ m.active = true
  dimensions : ∀ s ∈ p.dimensions, ∃ d, dimension? s = some d ∧ d.active = true
  requires : ∀ s ∈ p.metrics, ∀ m, metric? s = some m → ∀ r ∈ m.requires, r ∈ p.dimensions
  compatible : ∀ s ∈ p.metrics, ∀ m, metric? s = some m → ∀ t ∈ p.metrics, t ∉ m.incompatible
  lens : ∀ slug, lens = some slug → ∃ l, lens? slug = some l ∧ l.active = true ∧
    (∀ allowed, l.metrics = some allowed → ∀ s ∈ p.metrics, s ∈ allowed) ∧
    ∀ allowed, l.dimensions = some allowed → ∀ s ∈ p.dimensions, s ∈ allowed
  operators : ∀ f ∈ p.filters, f.slug ∈ p.dimensions → ∀ d, dimension? f.slug = some d →
    f.condition.operator ∈ d.type.operators
  sort : ∀ ks, p.sort = some ks → ∀ k ∈ ks, k.slug ∈ p.metrics ∨ k.slug ∈ p.dimensions

/-- A comparison that needs an order. -/
def Operator.IsOrder (op : Operator) : Prop := op = .atLeast ∨ op = .atMost ∨ op = .between

instance : DecidablePred Operator.IsOrder := fun _ => inferInstanceAs (Decidable (_ ∨ _ ∨ _))

/-- Which comparisons a column takes. -/
theorem ColumnType.mem_operators_iff {t : ColumnType} {op : Operator} :
    op ∈ t.operators ↔ op = .equals ∨ op = .oneOf ∧ t ≠ .timestamp ∧ t ≠ .boolean ∨
      op.IsOrder ∧ t ≠ .string ∧ t ≠ .boolean ∨ op = .contains ∧ t = .string := by
  cases t <;> cases op <;> decide

theorem eraseDupsBy_eq_nil_iff {α : Type} {r : α → α → Bool} {l : List α} :
    l.eraseDupsBy r = [] ↔ l = [] := by
  cases l with
  | nil => simp
  | cons a l => simp [List.eraseDupsBy_cons]

theorem Lens.allows_iff {allowed : Option (List String)} {s : String} :
    allows allowed s = true ↔ ∀ slugs, allowed = some slugs → s ∈ slugs := by
  cases allowed <;> simp [allows]

namespace Catalog

variable {c : Catalog} {p : Plan}

theorem metricObjection_eq_none_iff {s : String} :
    c.metricObjection s = none ↔ ∃ m, c.metrics.find? s = some m ∧ m.active = true := by
  unfold metricObjection
  cases c.metrics.find? s <;> simp

theorem dimensionObjection_eq_none_iff {s : String} :
    c.dimensionObjection s = none ↔ ∃ d, c.dimensions.find? s = some d ∧ d.active = true := by
  unfold dimensionObjection
  cases c.dimensions.find? s <;> simp

theorem requirementObjection_eq_none_iff {selected : List String} {m : Metric} :
    requirementObjection selected m = none ↔ ∀ r ∈ m.requires, r ∈ selected := by
  simp [requirementObjection]

theorem incompatiblePairs_eq_nil_iff {metrics : List Metric} :
    incompatiblePairs metrics = [] ↔
      ∀ m ∈ metrics, ∀ t ∈ metrics.map Metric.slug, t ∉ m.incompatible := by
  simp only [incompatiblePairs, eraseDupsBy_eq_nil_iff, List.flatMap_eq_nil_iff,
    List.map_eq_nil_iff, List.filter_eq_nil_iff, List.contains_eq_mem, decide_eq_true_eq]
  exact forall₂_congr fun m _ => ⟨fun h t ht hi => h t hi ht, fun h t hi ht => h t ht hi⟩

theorem lensObjections_eq_nil_iff {slug : String} :
    c.lensObjections p slug = [] ↔ ∃ l, c.lenses.find? slug = some l ∧ l.active = true ∧
      (∀ s ∈ p.metrics, c.metrics.contains s = true → Lens.allows l.metrics s = true) ∧
      ∀ s ∈ p.dimensions, c.dimensions.contains s = true → Lens.allows l.dimensions s = true := by
  unfold lensObjections activeLens?
  cases hl : (c.lenses.find? slug).filter Lens.active with
  | none =>
    simp only [Option.filter_eq_none_iff] at hl
    simp only [List.cons_ne_nil, false_iff]
    rintro ⟨l, hfind, hactive, -⟩
    exact hl l hfind hactive
  | some l =>
    obtain ⟨hfind, hactive⟩ := Option.filter_eq_some_iff.1 hl
    simp [List.filter_eq_nil_iff, hfind, hactive]

theorem filterObjection_eq_none_iff {f : Filter} :
    c.filterObjection p f = none ↔ (f.slug ∈ p.dimensions → ∀ d,
      c.dimensions.find? f.slug = some d → f.condition.operator ∈ d.type.operators) := by
  unfold filterObjection
  by_cases hslug : f.slug ∈ p.dimensions
  · cases c.dimensions.find? f.slug <;> simp [hslug]
  · simp [hslug]

theorem sortObjection_eq_none_iff {k : SortKey} :
    sortObjection p k = none ↔ k.slug ∈ p.metrics ∨ k.slug ∈ p.dimensions := by
  simp [sortObjection, or_iff_not_imp_left]

/-! ## Verdicts -/

/-- The catalog has no objection exactly if all its rules are kept. -/
theorem objections_eq_nil_iff {lens : Option String} :
    c.objections p lens = [] ↔
      Accepts c.metrics.find? c.dimensions.find? c.lenses.find? p lens := by
  simp only [objections, List.append_eq_nil_iff, List.filterMap_eq_nil_iff, List.map_eq_nil_iff,
    List.mem_eraseDups, metricObjection_eq_none_iff, dimensionObjection_eq_none_iff,
    requirementObjection_eq_none_iff, incompatiblePairs_eq_nil_iff, filterObjection_eq_none_iff,
    sortObjection_eq_none_iff, selectedMetrics_eq, selectedDimensions_eq]
  constructor
  · rintro ⟨⟨⟨⟨⟨⟨hmetrics, hdimensions⟩, hrequires⟩, hcompatible⟩, hlens⟩, hoperators⟩, hsort⟩
    exact {
      metrics := hmetrics
      dimensions := hdimensions
      requires := (SlugMap.forall_selected hmetrics).1 fun m hm r hr =>
        (SlugMap.slug_mem_selected hdimensions).1 (hrequires m hm r hr)
      compatible := (SlugMap.forall_selected hmetrics).1 fun m hm t ht =>
        hcompatible m hm t ((SlugMap.slug_mem_selected hmetrics).2 ht)
      lens := by
        rintro slug rfl
        obtain ⟨l, hfind, hactive, hms, hds⟩ := lensObjections_eq_nil_iff.1 hlens
        refine ⟨l, hfind, hactive, fun allowed hallowed s hs => ?_, fun allowed hallowed s hs => ?_⟩
        · obtain ⟨m, hm, -⟩ := hmetrics s hs
          exact Lens.allows_iff.1 (hms s hs (by simp [SlugMap.contains, hm])) allowed hallowed
        · obtain ⟨d, hd, -⟩ := hdimensions s hs
          exact Lens.allows_iff.1 (hds s hs (by simp [SlugMap.contains, hd])) allowed hallowed
      operators := hoperators
      sort := by
        rintro ks hks k hk
        exact hsort k (by simpa [hks] using hk) }
  · intro h
    refine ⟨⟨⟨⟨⟨⟨h.metrics, h.dimensions⟩, ?_⟩, ?_⟩, ?_⟩, h.operators⟩, ?_⟩
    · intro m hm r hr
      have hrequires := (SlugMap.forall_selected h.metrics).2 h.requires
      exact (SlugMap.slug_mem_selected h.dimensions).2 (hrequires m hm r hr)
    · intro m hm t ht
      have hcompatible := (SlugMap.forall_selected h.metrics).2 h.compatible
      exact hcompatible m hm t ((SlugMap.slug_mem_selected h.metrics).1 ht)
    · cases lens with
      | none => rfl
      | some slug =>
        obtain ⟨l, hfind, hactive, hms, hds⟩ := h.lens slug rfl
        exact lensObjections_eq_nil_iff.2 ⟨l, hfind, hactive,
          fun s hs _ => Lens.allows_iff.2 fun slugs hslugs => hms slugs hslugs s hs,
          fun s hs _ => Lens.allows_iff.2 fun slugs hslugs => hds slugs hslugs s hs⟩
    · intro k hk
      cases hks : p.sort with
      | none => simp [hks] at hk
      | some ks => exact h.sort ks hks k (by simpa [hks] using hk)

theorem errors_verdict (c : Catalog) (p : Plan) (lens : Option String) :
    (c.verdict p lens).errors = (c.objections p lens).map Objection.message := by
  unfold verdict
  by_cases hnone : c.objections p lens = []
  · simp [hnone]
  · simp [hnone]

theorem valid_verdict_iff {lens : Option String} :
    (c.verdict p lens).valid = true ↔
      Accepts c.metrics.find? c.dimensions.find? c.lenses.find? p lens := by
  rw [← objections_eq_nil_iff, verdict]
  by_cases h : c.objections p lens = [] <;> simp [h]

/-- What is resolved does not depend on the lens. -/
theorem verdict_of_valid {lens : Option String} (h : (c.verdict p lens).valid = true) :
    c.verdict p lens =
      { valid := true, metrics := c.selectedMetrics p, dimensions := c.selectedDimensions p } := by
  rw [valid_verdict_iff, ← objections_eq_nil_iff] at h
  rw [verdict, h]
  rfl

end Catalog

/-- A verdict that resolves all slugs of a plan, each distinct one once and in the order in which
they first occur, and says nothing against it. -/
structure Verdict.ResolvesAll (metric? : String → Option Metric)
    (dimension? : String → Option Dimension) (p : Plan) (v : Verdict) : Prop where
  errors : v.errors = []
  metric_slugs : FirstOccurrences (v.metrics.map Metric.slug) p.metrics
  metrics : ∀ m ∈ v.metrics, metric? m.slug = some m
  dimension_slugs : FirstOccurrences (v.dimensions.map Dimension.slug) p.dimensions
  dimensions : ∀ d ∈ v.dimensions, dimension? d.slug = some d

/-- A verdict that resolves nothing and says why. -/
structure Verdict.ResolvesNone (v : Verdict) : Prop where
  errors : v.errors ≠ []
  metrics : v.metrics = []
  dimensions : v.dimensions = []

theorem Catalog.resolvesAll_verdict {c : Catalog} {p : Plan} {lens : Option String}
    (h : (c.verdict p lens).valid = true) :
    (c.verdict p lens).ResolvesAll c.metrics.find? c.dimensions.find? p := by
  have haccepts := valid_verdict_iff.1 h
  rw [verdict_of_valid h]
  exact {
    errors := rfl
    metric_slugs := SlugMap.firstOccurrences_selected haccepts.metrics
    metrics := fun m hm => (SlugMap.mem_selected.1 hm).2.1
    dimension_slugs := SlugMap.firstOccurrences_selected haccepts.dimensions
    dimensions := fun d hd => (SlugMap.mem_selected.1 hd).2.1 }

theorem Catalog.resolvesNone_verdict {c : Catalog} {p : Plan} {lens : Option String}
    (h : (c.verdict p lens).valid = false) : (c.verdict p lens).ResolvesNone := by
  by_cases hnone : c.objections p lens = []
  · simp [verdict, hnone] at h
  · have hverdict : c.verdict p lens =
        { valid := false, errors := (c.objections p lens).map Objection.message } := by
      simp [verdict, hnone]
    rw [hverdict]
    exact { errors := by simpa using hnone, metrics := rfl, dimensions := rfl }

/-- **Which plans a catalog accepts.** A catalog always gives a verdict. It is valid exactly if the
plan keeps the rules for the last definition of each slug, and then it resolves all slugs; if not,
it resolves none and says why. -/
theorem exists_verdict (metrics : List Metric) (dimensions : List Dimension) (lenses : List Lens)
    (p : Plan) (lens : Option String) :
    ∃ v, ((Catalog.ofLists metrics dimensions lenses).registry.consult p lens).answer = .ok v ∧
      (v.valid = true ↔
        Accepts (lastWith metrics) (lastWith dimensions) (lastWith lenses) p lens) ∧
      (v.valid = true → v.ResolvesAll (lastWith metrics) (lastWith dimensions) p) ∧
      (v.valid = false → v.ResolvesNone) := by
  have hmetric := funext (SlugMap.find?_ofList metrics)
  have hdimension := funext (SlugMap.find?_ofList dimensions)
  have hlens := funext (SlugMap.find?_ofList lenses)
  refine ⟨(Catalog.ofLists metrics dimensions lenses).verdict p lens, rfl, ?_, fun hvalid => ?_,
    Catalog.resolvesNone_verdict⟩
  · rw [← hmetric, ← hdimension, ← hlens]
    exact Catalog.valid_verdict_iff
  · rw [← hmetric, ← hdimension]
    exact Catalog.resolvesAll_verdict hvalid

/-- A metric that declares itself incompatible is in no plan that is accepted. -/
example :
    ((Catalog.ofLists
      [{ slug := "sales", expression := ⟨"SUM(net)", true⟩, table := ⟨"daily", true⟩
         incompatible := ["sales"] }] [] []).verdict { metrics := ["sales"] } none).valid =
      false := by
  decide

end MetricQuery
