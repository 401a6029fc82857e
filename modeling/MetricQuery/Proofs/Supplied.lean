import MetricQuery.Proofs.Ingredients
import MetricQuery.Proofs.Restriction

/-!
# What a registry supplies to a query

A verdict supplies texts to a query: the expressions of its definitions, and for each text that a
metric has as its condition, the condition of the first metric with that text.

**Theorem (`Compilation.writtenFrom`).** The template of a compiled query is put together from texts
that its verdict supplies, names (`queryNames`), holes and fixed words, and from nothing else.

The fragments in a statement are supplied mark of trust and all (`Compilation.supplies`), so it
makes a difference which of several conditions with one text was taken.
-/

namespace MetricQuery

open Sql

/-! ## Supplied texts -/

/-- The first of these metrics whose condition has this text. -/
def firstCarrying (metrics : List Metric) (text : String) : Option Metric :=
  metrics.find? fun m => m.condition.any fun t => t.text == text

namespace Verdict

/-- The text is the expression of a definition. -/
def HasExpression (v : Verdict) (t : SqlText) : Prop :=
  (∃ m ∈ v.metrics, m.expression = t) ∨ ∃ d ∈ v.dimensions, d.expression = t

/-- The text says something, and is the condition of the first metric whose condition it is. -/
def HasCondition (v : Verdict) (t : SqlText) : Prop :=
  t.text ≠ "" ∧ ∃ m, firstCarrying v.metrics t.text = some m ∧ m.condition = some t

def Supplies (v : Verdict) (t : SqlText) : Prop := v.HasExpression t ∨ v.HasCondition t

end Verdict

theorem mem_metricConditions {metrics : List Metric} {t : SqlText} :
    t ∈ Restriction.metricConditions metrics ↔
      t.text ≠ "" ∧ ∃ m, firstCarrying metrics t.text = some m ∧ m.condition = some t := by
  rw [Restriction.metricConditions, mem_eraseDupsBy_iff, List.find?_filter, List.find?_filterMap]
  by_cases ht : t.text = ""
  · -- An empty text is left out, so no metric is found for it.
    have hnone : (metrics.find? fun m => m.condition.any fun s =>
        decide ((s.text != "") = true ∧ (s.text == t.text) = true)) = none := by
      rw [List.find?_eq_none]
      simp [ht]
    rw [hnone]
    simp [ht]
  · have hsome : (metrics.find? fun m => m.condition.any fun s =>
        decide ((s.text != "") = true ∧ (s.text == t.text) = true)) =
          firstCarrying metrics t.text := by
      unfold firstCarrying
      congr 1
      funext m
      congr 1
      funext s
      by_cases hs : s.text = t.text <;> simp [hs, ht]
    rw [hsome, Option.bind_eq_some_iff]
    simp [ht]

/-! ## Steps that look at marks -/

/-- Something with this property is not marked. -/
def SomeUnmarked (P : SqlText → Prop) : Prop := ∃ t, P t ∧ t.trusted = false

namespace Selection

theorem exists_vouched {t : SqlText} (h : t.trusted = true) : ∃ f, vouched t = .ok f :=
  ⟨⟨t, h⟩, vouched_eq_ok.2 rfl⟩

theorem vouched_cases (t : SqlText) :
    (¬ t.trusted = false ∧ ∃ f, vouched t = .ok f) ∨
      t.trusted = false ∧ vouched t = .error .untrustedSql := by
  cases ht : t.trusted with
  | true => exact .inl ⟨by simp, exists_vouched ht⟩
  | false =>
    refine .inr ⟨rfl, ?_⟩
    rw [vouched, SqlText.fragment?_eq_none_iff.2 ht]

/-- A step that needs the fragment of a text. -/
theorem map_vouched_cases {α : Type} (t : SqlText) (g : Fragment → α) :
    (¬ t.trusted = false ∧ ∃ a, (vouched t).map g = .ok a) ∨
      t.trusted = false ∧ (vouched t).map g = .error .untrustedSql := by
  obtain ⟨ht, f, hf⟩ | ⟨ht, hf⟩ := vouched_cases t
  · exact .inl ⟨ht, g f, by rw [hf]; rfl⟩
  · exact .inr ⟨ht, by rw [hf]; rfl⟩

/-- Expressions are all marked, or the selection fails. -/
theorem ofDefinitions_cases (v : Verdict) (primary : String) :
    (¬ SomeUnmarked v.HasExpression ∧
        ∃ s, ofDefinitions primary v.metrics v.dimensions = .ok s) ∨
      SomeUnmarked v.HasExpression ∧
        ofDefinitions primary v.metrics v.dimensions = .error .untrustedSql := by
  have hmetrics := mapM_cases (f := ofMetric) (P := fun m => m.expression.trusted = false)
    (fun m => map_vouched_cases m.expression _) v.metrics
  have hdimensions := mapM_cases (f := ofDimension) (P := fun d => d.expression.trusted = false)
    (fun d => map_vouched_cases d.expression _) v.dimensions
  obtain ⟨hms, ms, hm⟩ | ⟨⟨m, hmem, hm⟩, herror⟩ := hmetrics
  · obtain ⟨hds, ds, hd⟩ | ⟨⟨d, hmem, hd⟩, herror⟩ := hdimensions
    · refine .inl ⟨?_, ⟨primary, ms, ds⟩, bind_eq_ok.2 ⟨ms, hm, bind_eq_ok.2 ⟨ds, hd, rfl⟩⟩⟩
      rintro ⟨t, ⟨m, hmem, rfl⟩ | ⟨d, hmem, rfl⟩, ht⟩
      · exact hms m hmem ht
      · exact hds d hmem ht
    · refine .inr ⟨⟨d.expression, .inr ⟨d, hmem, rfl⟩, hd⟩, ?_⟩
      simp only [ofDefinitions, hm, herror, bind, Except.bind]
  · refine .inr ⟨⟨m.expression, .inl ⟨m, hmem, rfl⟩, hm⟩, ?_⟩
    simp only [ofDefinitions, herror, bind, Except.bind]

end Selection

namespace Restriction

/-- Conditions of metrics are all marked, or they are not stated. -/
theorem ofMetrics_cases (v : Verdict) :
    (¬ SomeUnmarked v.HasCondition ∧ ∃ ps, ofMetrics v.metrics = .ok ps) ∨
      SomeUnmarked v.HasCondition ∧ ofMetrics v.metrics = .error .untrustedSql := by
  obtain ⟨hall, hmade⟩ | ⟨⟨t, hmem, ht⟩, herror⟩ :=
    mapM_cases (P := fun t => t.trusted = false)
      (fun t => Selection.map_vouched_cases t Predicate.fragment) (metricConditions v.metrics)
  · refine .inl ⟨?_, hmade⟩
    rintro ⟨t, hcondition, ht⟩
    exact hall t (mem_metricConditions.2 hcondition) ht
  · exact .inr ⟨⟨t, mem_metricConditions.1 hmem, ht⟩, herror⟩

end Restriction

/-! ## Supplied conditions -/

section Restriction

variable {settings : Settings} {request : Request} {primary : String} {verdict : Verdict}
  {selection : Selection} {ps : List Predicate}

theorem source_of_ofMetrics {metrics : List Metric} (h : Restriction.ofMetrics metrics = .ok ps)
    {p : Predicate} (hp : p ∈ ps) :
    ∃ f, p = .fragment f ∧ f.source ∈ Restriction.metricConditions metrics := by
  obtain ⟨t, ht, hp⟩ := exists_left_of_forall₂ (mapM_eq_ok.1 h) hp
  obtain ⟨f, hf, rfl⟩ := map_eq_ok.1 hp
  exact ⟨f, rfl, Selection.vouched_eq_ok.1 hf ▸ ht⟩

theorem subject?_of_scope {p : Predicate} (hp : p ∈ Restriction.scope settings request) :
    ∃ name, p.subject? = some (.column name) := by
  simp only [Restriction.scope, List.mem_cons, Option.mem_toList, Option.map_eq_some_iff] at hp
  obtain rfl | ⟨l, -, rfl⟩ := hp
  · exact ⟨settings.tenantColumn, rfl⟩
  · exact ⟨settings.locationColumn, rfl⟩

/-- The fragment in a predicate is supplied. -/
theorem supplies_of_restricted (hresolves : selection.Resolves primary verdict.metrics
    verdict.dimensions) (h : Restriction.all settings request verdict.metrics selection = .ok ps)
    {p : Predicate} (hp : p ∈ ps) {f : Fragment} (hf : p.fragment? = some f) :
    verdict.Supplies f.source := by
  obtain ⟨days, ofM, ofF, -, hofM, -, hofF, rfl⟩ := Restriction.all_eq_ok.1 h
  simp only [List.mem_append] at hp
  obtain ((hp | hp) | hp) | hp := hp
  · obtain ⟨name, hname⟩ := subject?_of_scope hp
    simp [Predicate.fragment?_of_subject? hname, Subject.fragment?] at hf
  · obtain ⟨span, -, rfl⟩ : ∃ span, days = some span ∧
        Restriction.ofSpan (selection.timeSubject settings.timeColumn) span = p := by
      simpa using hp
    have hsubject : (selection.timeSubject settings.timeColumn).fragment? = some f := hf
    obtain ⟨d, g, hd, hg, htime⟩ | ⟨-, htime⟩ := hresolves.timeSubject_cases settings.timeColumn
    · obtain rfl : g = f := by simpa [htime, Subject.fragment?] using hsubject
      exact .inl (.inr ⟨d, List.mem_of_find?_eq_some hd, hg.symm⟩)
    · simp [htime, Subject.fragment?] at hsubject
  · obtain ⟨g, rfl, hg⟩ := source_of_ofMetrics hofM hp
    obtain rfl : g = f := Option.some.inj hf
    exact .inr (mem_metricConditions.1 hg)
  · obtain ⟨k, hk, g, hg, hstates⟩ := exists_left_of_forall₂ (hresolves.states_ofFilters hofF) hp
    rw [Predicate.fragment?_of_subject? (subject?_predicate hstates)] at hf
    obtain rfl : g = f := Option.some.inj hf
    exact .inl (.inr ⟨k.2, mem_dimensions_of_retained hk, hg.symm⟩)

end Restriction

/-! ## Supplied statements -/

/-- A query is sorted by the keys of its plan, or else by one of its definitions. -/
theorem order_cases {p : Plan} {metrics : List Metric} {dimensions : List Dimension} {k : SortKey}
    (hk : k ∈ p.order metrics dimensions) :
    (∃ ks, p.sort = some ks ∧ k ∈ ks) ∨ (∃ m ∈ metrics, m.slug = k.slug) ∨
      ∃ d ∈ dimensions, d.slug = k.slug := by
  unfold Plan.order at hk
  split at hk
  · next hsort => exact .inl ⟨_, hsort, hk⟩
  · split at hk
    · next d hd =>
      obtain rfl := List.mem_singleton.1 hk
      exact .inr (.inr ⟨d, List.mem_of_find?_eq_some hd, rfl⟩)
    · split at hk
      · simp at hk
      · next m ms =>
        obtain rfl := List.mem_singleton.1 hk
        exact .inr (.inl ⟨m, List.mem_cons_self, rfl⟩)

/-- The names that a query for these definitions may take in: columns of the settings, tables and
slugs of definitions, slugs of sort keys. -/
def queryNames (settings : Settings) (request : Request) (verdict : Verdict) : List String :=
  [settings.tenantColumn, settings.locationColumn, settings.timeColumn] ++
    verdict.metrics.flatMap (fun m => [m.slug, m.table.text]) ++
    verdict.dimensions.map Dimension.slug ++ (request.plan.sort.getD []).map SortKey.slug

section Names

variable {settings : Settings} {request : Request} {verdict : Verdict}

theorem metric_name_mem {m : Metric} (hm : m ∈ verdict.metrics) {n : String}
    (hn : n = m.slug ∨ n = m.table.text) : n ∈ queryNames settings request verdict := by
  simp only [queryNames, List.mem_append, List.mem_flatMap]
  exact .inl (.inl (.inr ⟨m, hm, by simpa using hn⟩))

theorem dimension_name_mem {d : Dimension} (hd : d ∈ verdict.dimensions) :
    d.slug ∈ queryNames settings request verdict := by
  simp only [queryNames, List.mem_append]
  exact .inl (.inr (List.mem_map_of_mem hd))

theorem order_name_mem {k : SortKey}
    (hk : k ∈ request.plan.order verdict.metrics verdict.dimensions) :
    k.slug ∈ queryNames settings request verdict := by
  obtain ⟨ks, hsort, hk⟩ | ⟨m, hm, hslug⟩ | ⟨d, hd, hslug⟩ := order_cases hk
  · simp only [queryNames, hsort, List.mem_append]
    exact .inr (List.mem_map_of_mem hk)
  · exact metric_name_mem hm (.inl hslug.symm)
  · exact hslug ▸ dimension_name_mem hd

end Names

/-- The template of the query is put together from these texts as they stand, these names as they
are written, holes and fixed words. -/
def Query.WrittenFrom (q : Query) (names : List String) (texts : SqlText → Prop) : Prop :=
  MadeOf (Ingredient names texts (Piece.names {} q.statement.pieces))
    (Piece.template {} q.statement.pieces)

/-- The fragments and names of a statement are all that it is written from. -/
theorem Query.writtenFrom {q : Query} {names : List String} {texts : SqlText → Prop}
    (hnames : ∀ n ∈ q.statement.names, n ∈ names)
    (htexts : ∀ f ∈ q.statement.fragments, texts f.source) : q.WrittenFrom names texts := by
  refine q.statement.madeOf_template.mono fun t => Ingredient.mono hnames ?_
  rintro t ⟨f, hf, rfl⟩
  exact htexts f hf

theorem inner_expr (d : SelectedDimension) (p : Plan) : (d.expr p).inner = d.expression := by
  unfold SelectedDimension.expr
  split
  · split <;> rfl
  · rfl

namespace Compilation

variable {registry : Registry} {settings : Settings} {request : Request} {q : Query}

theorem dimension_mem (c : Compilation registry settings request q) {d : SelectedDimension}
    (hd : d ∈ c.selection.dimensions) : d.dimension ∈ c.verdict.dimensions :=
  c.resolves.dimensions ▸ List.mem_map_of_mem hd

theorem metric_mem (c : Compilation registry settings request q) {m : Metric × Fragment}
    (hm : m ∈ c.selection.metrics) : m.1 ∈ c.verdict.metrics :=
  c.resolves.metrics ▸ List.mem_map_of_mem hm

/-- The fragments of a query are supplied by its verdict. -/
theorem supplies (c : Compilation registry settings request q) {f : Fragment}
    (hf : f ∈ q.statement.fragments) : c.verdict.Supplies f.source := by
  have hdimension : ∀ d ∈ c.selection.dimensions, c.verdict.Supplies d.expression.source :=
    fun d hd => .inl (.inr ⟨d.dimension, c.dimension_mem hd,
      (c.resolves.dimension_source d hd).symm⟩)
  have hstatement := congrArg Query.statement c.made
  simp only [hstatement, Statement.fragments, Selection.columns, Selection.groups, List.mem_append,
    List.map_append, List.map_map, List.mem_map, Function.comp_apply, SelectedDimension.column,
    inner_expr, List.mem_filterMap] at hf
  obtain ((⟨m, hm, rfl⟩ | ⟨d, hd, rfl⟩) | ⟨p, hp, hf⟩) | ⟨d, hd, rfl⟩ := hf
  · exact .inl (.inl ⟨m.1, c.metric_mem hm, (c.resolves.metric_source m hm).symm⟩)
  · exact hdimension d hd
  · exact supplies_of_restricted c.resolves c.restricted hp hf
  · exact hdimension d hd

/-- The names of a query are those of its settings, its definitions and its sort keys. -/
theorem name_mem (c : Compilation registry settings request q) {n : String}
    (hn : n ∈ q.statement.names) : n ∈ queryNames settings request c.verdict := by
  obtain ⟨r⟩ := c.restricted_conditions
  have hstatement := congrArg Query.statement c.made
  simp only [hstatement, Statement.names, Selection.columns, List.mem_append, List.mem_cons,
    List.map_append, List.map_map, List.mem_map, Function.comp_apply, SelectedDimension.column,
    List.mem_filterMap] at hn
  obtain ((⟨m, hm, rfl⟩ | ⟨d, hd, rfl⟩) | rfl | ⟨p, hp, hn⟩) | ⟨k, hk, rfl⟩ := hn
  · exact metric_name_mem (c.metric_mem hm) (.inl rfl)
  · exact dimension_name_mem (c.dimension_mem hd)
  · exact metric_name_mem c.first_mem (.inr rfl)
  · cases r.origin hp with
    | column name hname h =>
      obtain rfl : name = n := by simpa [Predicate.column?, h, Subject.column?] using hn
      exact List.mem_append_left _ (List.mem_append_left _ (List.mem_append_left _ hname))
    | dimension f d _ _ h => simp [Predicate.column?, h, Subject.column?] at hn
    | metric f m _ _ h => simp [Predicate.column?, h, Predicate.subject?] at hn
  · exact order_name_mem hk

theorem writtenFrom (c : Compilation registry settings request q) :
    q.WrittenFrom (queryNames settings request c.verdict) c.verdict.Supplies :=
  Query.writtenFrom (fun _ => c.name_mem) fun _ => c.supplies

end Compilation

end MetricQuery
