import MetricQuery.Catalog.Reporting
import MetricQuery.Proofs.ColumnNames
import MetricQuery.Proofs.Precedence

/-!
# Lenses

A lens shows a part of a catalog: it may list the metrics and the dimensions that plans can select.

**Theorem (`lens_narrows`).** Through a lens a catalog has the errors for a plan that it has without
it, and maybe more. A request that gives a query through the lens gives the same query without it,
and all SQL in that query is that of definitions which the lens shows.

The lens judges the slugs of the plan, but the query is made of the definitions that were resolved.
A valid verdict ties the two together: it resolves the slugs of the plan and nothing else
(`Catalog.resolvesAll_verdict`).
-/

namespace MetricQuery

open Sql

namespace Catalog

variable {c : Catalog} {p : Plan}

/-! ## Errors -/

theorem objections_sublist (c : Catalog) (p : Plan) (slug : String) :
    (c.objections p none).Sublist (c.objections p (some slug)) := by
  have hlens : ([] : List Objection).Sublist (c.lensObjections p slug) := List.nil_sublist _
  unfold objections
  exact (((List.Sublist.refl _).append hlens).append (List.Sublist.refl _)).append
    (List.Sublist.refl _)

theorem errors_sublist (c : Catalog) (p : Plan) (slug : String) :
    (c.verdict p none).errors.Sublist (c.verdict p (some slug)).errors := by
  rw [errors_verdict, errors_verdict]
  exact (c.objections_sublist p slug).map Objection.message

end Catalog

/-! ## Verdicts -/

/-- A lens that is in use, and shows the slugs of the plan wherever it lists slugs. -/
structure Lens.Admits (l : Lens) (p : Plan) : Prop where
  active : l.active = true
  metrics : ∀ allowed, l.metrics = some allowed → ∀ s ∈ p.metrics, s ∈ allowed
  dimensions : ∀ allowed, l.dimensions = some allowed → ∀ s ∈ p.dimensions, s ∈ allowed

/-- A catalog accepts through a lens what it accepts without, as far as the lens shows it. -/
theorem Catalog.valid_verdict_some_iff {c : Catalog} {p : Plan} {slug : String} :
    (c.verdict p (some slug)).valid = true ↔ (c.verdict p none).valid = true ∧
      ∃ l, c.lenses.find? slug = some l ∧ l.Admits p := by
  rw [valid_verdict_iff, valid_verdict_iff]
  constructor
  · intro h
    obtain ⟨l, hl, hactive, hmetrics, hdimensions⟩ := h.lens slug rfl
    exact ⟨{ h with lens := fun _ hnone => nomatch hnone }, l, hl, hactive, hmetrics, hdimensions⟩
  · rintro ⟨h, l, hl, hactive, hmetrics, hdimensions⟩
    refine { h with lens := fun slug' hslug => ?_ }
    obtain rfl := Option.some.inj hslug
    exact ⟨l, hl, hactive, hmetrics, hdimensions⟩

/-! ## Queries -/

/-- The text is SQL of a definition that the query is made for. -/
def Query.Uses (q : Query) (t : SqlText) : Prop :=
  (∃ m ∈ q.metrics, m.expression = t ∨ m.condition = some t) ∨
    ∃ d ∈ q.dimensions, d.expression = t

/-- All SQL in a query is that of definitions which the catalog has and the lens shows. -/
structure Query.Within (c : Catalog) (l : Lens) (q : Query) : Prop where
  metrics : ∀ m ∈ q.metrics, c.metrics.find? m.slug = some m ∧
    ∀ allowed, l.metrics = some allowed → m.slug ∈ allowed
  dimensions : ∀ d ∈ q.dimensions, c.dimensions.find? d.slug = some d ∧
    ∀ allowed, l.dimensions = some allowed → d.slug ∈ allowed
  /-- What stands in the columns, the conditions and the groups. -/
  fragments : ∀ f ∈ q.statement.fragments, q.Uses f.source
  /-- Rows are sorted by what is selected. -/
  order : ∀ k ∈ q.statement.order,
    (∃ m ∈ q.metrics, m.slug = k.slug) ∨ ∃ d ∈ q.dimensions, d.slug = k.slug
  template : q.WrittenFrom q.statement.names q.Uses

/-- A lens takes something away and adds nothing. -/
structure Catalog.Narrows (c : Catalog) (settings : Settings) (r : Request) (slug : String) :
    Prop where
  errors : (c.verdict r.plan none).errors.Sublist (c.verdict r.plan (some slug)).errors
  valid : (c.verdict r.plan (some slug)).valid = true ↔ (c.verdict r.plan none).valid = true ∧
    ∃ l, c.lenses.find? slug = some l ∧ l.Admits r.plan
  same : ∀ q, (compile c.registry settings { r with lens := some slug }).outcome = .ok q →
    (compile c.registry settings { r with lens := none }).outcome = .ok q
  confined : ∀ q, (compile c.registry settings { r with lens := some slug }).outcome = .ok q →
    ∃ l, c.lenses.find? slug = some l ∧ l.active = true ∧ q.Within c l

/-- What the verdict supplies is SQL of a definition. -/
theorem Compilation.uses {registry : Registry} {settings : Settings} {r : Request} {q : Query}
    (c : Compilation registry settings r q) {t : SqlText} (h : c.verdict.Supplies t) :
    q.Uses t := by
  rw [Query.Uses, c.metrics_eq, c.dimensions_eq]
  obtain (⟨m, hm, ht⟩ | ⟨d, hd, ht⟩) | ⟨-, m, hfirst, ht⟩ := h
  · exact .inl ⟨m, hm, .inl ht⟩
  · exact .inr ⟨d, hd, ht⟩
  · exact .inl ⟨m, List.mem_of_find?_eq_some hfirst, .inr ht⟩

theorem Compilation.within {c : Catalog} {settings : Settings} {r : Request} {slug : String}
    {q : Query} (made : Compilation c.registry settings { r with lens := some slug } q) :
    ∃ l, c.lenses.find? slug = some l ∧ l.active = true ∧ q.Within c l := by
  have hresolves := made.resolvesAll
  obtain ⟨-, l, hl, hadmits⟩ := Catalog.valid_verdict_some_iff.1 made.valid_verdict
  -- The slugs of the plan are those of the definitions.
  have hmetric : ∀ s, s ∈ q.metrics.map Metric.slug ↔ s ∈ r.plan.metrics :=
    hresolves.metric_slugs.mem
  have hdimension : ∀ s, s ∈ q.dimensions.map Dimension.slug ↔ s ∈ r.plan.dimensions :=
    hresolves.dimension_slugs.mem
  refine ⟨l, hl, hadmits.active, {
    metrics := fun m hm => ⟨hresolves.metrics m hm, fun allowed hallowed => ?_⟩
    dimensions := fun d hd => ⟨hresolves.dimensions d hd, fun allowed hallowed => ?_⟩
    fragments := fun f hf => made.uses (made.supplies hf)
    order := fun k hk => ?_
    template := Query.writtenFrom (fun _ => id) fun f hf => made.uses (made.supplies hf) }⟩
  · have hslug : m.slug ∈ r.plan.metrics := (hmetric m.slug).1 (List.mem_map_of_mem hm)
    exact hadmits.metrics allowed hallowed m.slug hslug
  · have hslug : d.slug ∈ r.plan.dimensions := (hdimension d.slug).1 (List.mem_map_of_mem hd)
    exact hadmits.dimensions allowed hallowed d.slug hslug
  · rw [← List.mem_map, ← List.mem_map, hmetric, hdimension]
    exact made.slug_mem_of_order hk

/-- **A lens only narrows.** -/
theorem lens_narrows (c : Catalog) (settings : Settings) (r : Request) (slug : String) :
    c.Narrows settings r slug where
  errors := c.errors_sublist r.plan slug
  valid := Catalog.valid_verdict_some_iff
  same q hq := by
    obtain ⟨made⟩ := exists_compilation hq
    have hverdict : made.verdict = c.verdict r.plan (some slug) := made.verdict_eq rfl
    have hvalid : (c.verdict r.plan (some slug)).valid = true := hverdict ▸ made.valid
    have hsame : c.verdict r.plan none = c.verdict r.plan (some slug) := by
      rw [Catalog.verdict_of_valid hvalid,
        Catalog.verdict_of_valid (Catalog.valid_verdict_some_iff.1 hvalid).1]
    rw [← hq]
    -- A query is not built from the lens.
    exact outcome_congr Iff.rfl (congrArg Except.ok hsame) rfl
  confined q hq := by
    obtain ⟨made⟩ := exists_compilation hq
    exact made.within

/-- Golf operations have rounds to show, and no sales. -/
example :
    (compile Reporting.catalog.registry {}
        { plan := { metrics := ["rounds_played"] }, tenant := "acme"
          lens := some "golf_operations" }).outcome.isOk = true ∧
      (Reporting.catalog.verdict { metrics := ["net_sales"] } (some "golf_operations")).errors =
        ["Metric 'net_sales' is not allowed in lens 'golf_operations'"] := by
  decide +kernel

end MetricQuery
