import MetricQuery.Catalog.Reporting
import MetricQuery.Proofs.ColumnNames
import MetricQuery.Proofs.Projection
import MetricQuery.Proofs.Segments

/-!
# Metrics added to a plan

A query has one condition for all its metrics, and the conditions of every one are written into it.
So a metric may stand for other rows when another is selected with it (`exists_narrowed`).

**Theorem (`exists_grown`).** If metrics are added to a plan, its query gains their columns, and
their conditions so far as no metric had them before. Nothing else changes: parameters, groups,
order and limit stay. The condition is as before exactly if each of these conditions was there
already.

The added conditions hold no placeholder, so the numbers after them stay as they are.
-/

namespace MetricQuery

open Sql

/-- The request for further metrics. -/
def Request.addMetrics (r : Request) (slugs : List String) : Request :=
  { r with plan := { r.plan with metrics := r.plan.metrics ++ slugs } }

/-! ## Texts of conditions -/

theorem metricTexts_append (metrics added : List Metric) :
    metricTexts (metrics ++ added) = metricTexts metrics ++ metricTexts added :=
  List.filterMap_append

theorem SlugMap.selected_append {α : Type} [HasSlug α] (m : SlugMap α) (active : α → Bool)
    (slugs added : List String) :
    m.selected active (slugs ++ added) =
      m.selected active slugs ++ m.selected active (added.removeAll slugs) := by
  simp only [selected, List.eraseDups_append, List.filterMap_append]

theorem Fragment.text_injective : Function.Injective Fragment.text := by
  rintro ⟨⟨s, marked⟩, hs⟩ ⟨⟨t, marked'⟩, ht⟩ (rfl : s = t)
  obtain rfl : marked = true := hs
  obtain rfl : marked' = true := ht
  rfl

theorem mem_removeAll {l l' : List String} {t : String} :
    t ∈ l.removeAll l' ↔ t ∈ l ∧ t ∉ l' := by
  simp [List.removeAll]

/-! ## Statements with more metrics -/

/-- The second statement is the first with columns for the added metrics, after those of the
others, and with these conditions, each between brackets, before those of the kept filters. -/
structure Sql.Statement.Grown (metrics added : List Metric) (kept : List (Filter × Dimension))
    (texts : List String) (s s' : Statement) where
  metricColumns : List Column
  addedColumns : List Column
  dimensionColumns : List Column
  /-- The conditions before those of metrics. -/
  scope : List Predicate
  /-- The conditions of metrics. -/
  shared : List Fragment
  /-- The conditions that are added. -/
  fragments : List Fragment
  filters : List Predicate
  shows_metrics : List.Forall₂ Metric.Shows metrics metricColumns
  shows_added : List.Forall₂ Metric.Shows added addedColumns
  scope_ne_nil : scope ≠ []
  shared_texts : FirstOccurrences (shared.map Fragment.text) (metricTexts metrics)
  texts_eq : fragments.map Fragment.text = texts
  states : List.Forall₂ States kept filters
  columns : s.columns = metricColumns ++ dimensionColumns
  columns' : s'.columns = metricColumns ++ addedColumns ++ dimensionColumns
  conditions : s.conditions = scope ++ shared.map .fragment ++ filters
  conditions' : s'.conditions = scope ++ shared.map .fragment ++ fragments.map .fragment ++ filters
  same : s' = { s with columns := s'.columns, conditions := s'.conditions }

section Intercalate

variable {α : Type} (separator : List α)

theorem intercalate_cons (a : List α) (as : List (List α)) :
    separator.intercalate (a :: as) = a ++ as.flatMap (separator ++ ·) := by
  induction as generalizing a with
  | nil => simp
  | cons b as ih =>
    rw [List.intercalate_cons_cons, ih, List.flatMap_cons, List.append_assoc, List.append_assoc]

theorem intercalate_append {as : List (List α)} (h : as ≠ []) (bs : List (List α)) :
    separator.intercalate (as ++ bs) = separator.intercalate as ++ bs.flatMap (separator ++ ·) := by
  obtain ⟨a, as, rfl⟩ := List.exists_cons_of_ne_nil h
  rw [List.cons_append, intercalate_cons, intercalate_cons, List.flatMap_append, List.append_assoc]

end Intercalate

/-- Conditions of metrics, as they are written after other conditions. -/
def joinedTexts (texts : List String) : List Char :=
  texts.flatMap fun t => (" AND (" ++ t ++ ")").toList

theorem joinedTexts_eq_nil_iff {texts : List String} : joinedTexts texts = [] ↔ texts = [] := by
  cases texts <;> simp [joinedTexts]

namespace Sql.Statement.Grown

variable {metrics added : List Metric} {kept : List (Filter × Dimension)} {texts : List String}
  {s s' : Statement} (g : Grown metrics added kept texts s s')

/-- The conditions after which others are added. -/
def before : List Predicate := g.scope ++ g.shared.map .fragment

include g

theorem conditions_eq : s.conditions = g.before ++ g.filters := g.conditions

theorem conditions_eq' : s'.conditions = g.before ++ g.fragments.map .fragment ++ g.filters :=
  g.conditions'

theorem mem_conditions_iff {p : Predicate} :
    p ∈ s'.conditions ↔ p ∈ s.conditions ∨ ∃ f ∈ g.fragments, .fragment f = p := by
  rw [g.conditions_eq, g.conditions_eq', List.mem_append, List.mem_append, List.mem_append,
    List.mem_map, or_right_comm]

theorem closing_eq : s'.closing = s.closing := by
  rw [g.same]
  rfl

/-- The condition in parts. Those added have no placeholders, so the others keep theirs. -/
theorem exists_parts : ∃ leading trailing, leading ≠ [] ∧ s.parts = leading ++ trailing ∧
    s'.parts = leading ++ (texts.map fun t => ⟨("(" ++ t ++ ")").toList, []⟩) ++ trailing := by
  have hnone : ((g.fragments.map Predicate.fragment).map Predicate.pieces).flatMap Piece.values =
      [] := by
    simp [Predicate.pieces, Piece.values]
  obtain ⟨p, ps, hbefore⟩ : ∃ p ps, g.before = p :: ps :=
    List.exists_cons_of_ne_nil (List.append_ne_nil_of_left_ne_nil g.scope_ne_nil _)
  refine ⟨Piece.parts 0 (g.before.map Predicate.pieces),
    Piece.parts (0 + ((g.before.map Predicate.pieces).flatMap Piece.values).length)
      (g.filters.map Predicate.pieces), ?_, ?_, ?_⟩
  · rw [hbefore]
    exact List.cons_ne_nil _ _
  · rw [parts, g.conditions_eq, List.map_append, Piece.parts_append]
  · rw [parts, g.conditions_eq', List.map_append, List.map_append, Piece.parts_append,
      Piece.parts_append, List.flatMap_append, hnone, List.append_nil, List.map_map,
      parts_fragments, g.texts_eq]

theorem params_eq : s'.params = s.params := by
  obtain ⟨leading, trailing, -, hs, hs'⟩ := g.exists_parts
  have hlimit : s'.limit = s.limit := by rw [g.same]
  rw [Statement.params_eq, Statement.params_eq, hs, hs', hlimit]
  simp [List.flatMap_map]

theorem exists_conditionText : ∃ leading trailing, s.conditionText = leading ++ trailing ∧
    s'.conditionText = leading ++ joinedTexts texts ++ trailing := by
  obtain ⟨leading, trailing, hne, hs, hs'⟩ := g.exists_parts
  have hne' : leading.map Part.text ≠ [] := by simpa using hne
  refine ⟨" AND ".toList.intercalate (leading.map Part.text),
    (trailing.map Part.text).flatMap (" AND ".toList ++ ·), ?_, ?_⟩
  · rw [conditionText, hs, List.map_append, intercalate_append _ hne']
  · rw [conditionText, hs', List.map_append, List.map_append, List.append_assoc,
      intercalate_append _ hne', List.flatMap_append, ← List.append_assoc]
    simp [joinedTexts, List.flatMap_map]

theorem sources_subset : s.sources ⊆ s'.sources := by
  have hcolumns : s.columns ⊆ s'.columns := by
    intro c hc
    rw [g.columns, List.mem_append] at hc
    rw [g.columns', List.mem_append, List.mem_append]
    exact hc.imp_left .inl
  have hconditions : s.conditions ⊆ s'.conditions := by
    intro p hp
    exact g.mem_conditions_iff.2 (.inl hp)
  intro t ht
  rw [g.same]
  simp only [sources, List.mem_append, List.mem_cons, List.mem_flatMap, List.mem_map] at ht ⊢
  rcases ht with ((⟨c, hc, ht⟩ | rfl | ⟨p, hp, rfl⟩) | ht) | ht
  · exact .inl (.inl (.inl ⟨c, hcolumns hc, ht⟩))
  · exact .inl (.inl (.inr (.inl rfl)))
  · exact .inl (.inl (.inr (.inr ⟨p, hconditions hp, rfl⟩)))
  · exact .inl (.inr ht)
  · exact .inr ht

section Distinct

variable (h : FirstOccurrences texts ((metricTexts added).removeAll (metricTexts metrics)))

include h

/-- The condition stays as it is only if no text is new. -/
theorem conditionText_eq_iff : s'.conditionText = s.conditionText ↔
    ∀ t ∈ metricTexts added, t ∈ metricTexts metrics := by
  obtain ⟨leading, trailing, hs, hs'⟩ := g.exists_conditionText
  rw [hs, hs', List.append_left_inj, List.append_right_eq_self, joinedTexts_eq_nil_iff]
  simp [List.eq_nil_iff_forall_not_mem, h.mem, mem_removeAll]

end Distinct

end Sql.Statement.Grown

/-! ## Compilations with more metrics -/

section Steps

variable {settings : Settings} {r : Request} {metrics added : List Metric}
  {dimensions : List Dimension}

theorem Selection.exists_of_append {primary : String} {s s' : Selection}
    (h : ofDefinitions primary metrics dimensions = .ok s)
    (h' : ofDefinitions primary (metrics ++ added) dimensions = .ok s') :
    ∃ more, metrics.Forall₂ (fun m p => ofMetric m = .ok p) s.metrics ∧
      added.Forall₂ (fun m p => ofMetric m = .ok p) more ∧
        s' = { s with metrics := s.metrics ++ more } := by
  obtain ⟨ms, hms, h⟩ := bind_eq_ok.1 h
  obtain ⟨ds, hds, h⟩ := bind_eq_ok.1 h
  obtain ⟨ms', hms', h'⟩ := bind_eq_ok.1 h'
  obtain ⟨ds', hds', h'⟩ := bind_eq_ok.1 h'
  rw [List.mapM_append] at hms'
  obtain ⟨shared, hshared, hms'⟩ := bind_eq_ok.1 hms'
  obtain ⟨more, hmore, hms'⟩ := bind_eq_ok.1 hms'
  obtain rfl : ms = shared := Except.ok.inj (hms.symm.trans hshared)
  obtain rfl : ds = ds' := Except.ok.inj (hds.symm.trans hds')
  obtain rfl : ms ++ more = ms' := Except.ok.inj hms'
  obtain rfl : ⟨primary, ms, ds⟩ = s := Except.ok.inj h
  obtain rfl : ⟨primary, ms ++ more, ds⟩ = s' := Except.ok.inj h'
  exact ⟨more, mapM_eq_ok.1 hms, mapM_eq_ok.1 hmore, rfl⟩

/-- Of all conditions, metrics have a say in their own only. -/
theorem Restriction.exists_of_append {slugs : List String} {s : Selection}
    {selected : List (Metric × Fragment)} {ps ps' : List Predicate}
    (h : all settings r metrics s = .ok ps)
    (h' : all settings (r.addMetrics slugs) (metrics ++ added) { s with metrics := selected } =
      .ok ps') :
    ∃ leading filters, ∃ shared more : List Fragment, leading ≠ [] ∧
      shared.map Fragment.text = (metricTexts metrics).eraseDups ∧
      more.map Fragment.text = ((metricTexts added).removeAll (metricTexts metrics)).eraseDups ∧
      ofFilters s r.plan.filters = .ok filters ∧
      ps = leading ++ shared.map .fragment ++ filters ∧
      ps' = leading ++ shared.map .fragment ++ more.map .fragment ++ filters := by
  obtain ⟨days, ofM, ofF, hdays, hofM, -, hofF, rfl⟩ := all_eq_ok.1 h
  obtain ⟨days', ofM', ofF', hdays', hofM', -, hofF', rfl⟩ := all_eq_ok.1 h'
  obtain rfl : days = days' := Except.ok.inj (hdays.symm.trans hdays')
  obtain rfl : ofF = ofF' := Except.ok.inj (hofF.symm.trans hofF')
  obtain ⟨fs, rfl, hfs⟩ := exists_fragments hofM
  obtain ⟨fs', rfl, hfs'⟩ := exists_fragments hofM'
  rw [metricTexts_append, List.eraseDups_append] at hfs'
  obtain ⟨shared, more, rfl, hshared, hmore⟩ := List.map_eq_append_iff.1 hfs'
  obtain rfl : shared = fs := Fragment.text_injective.list_map (hshared.trans hfs.symm)
  let time := (days.map (ofSpan (s.timeSubject settings.timeColumn))).toList
  refine ⟨scope settings r ++ time, ofF, shared, more, ?_, hfs, hmore, hofF, rfl, ?_⟩
  · simp [scope]
  · rw [List.map_append, ← List.append_assoc]
    rfl

end Steps

/-- Rows are sorted by the first metric, if by any. -/
theorem Plan.order_append (r : Request) (slugs : List String) {metrics : List Metric}
    (h : metrics ≠ []) (added : List Metric) (dimensions : List Dimension) :
    (r.addMetrics slugs).plan.order (metrics ++ added) dimensions =
      r.plan.order metrics dimensions := by
  obtain ⟨m, ms, rfl⟩ := List.exists_cons_of_ne_nil h
  rfl

namespace Compilation

section Catalog

variable {c : Catalog} {settings : Settings} {r : Request} {q : Query}
  (made : Compilation c.registry settings r q)

include made

theorem metrics_selected : q.metrics = c.metrics.selected Metric.active r.plan.metrics := by
  rw [made.metrics_eq, made.verdict_catalog, Catalog.verdict_of_valid made.valid_verdict]
  rfl

theorem dimensions_selected :
    q.dimensions = c.dimensions.selected Dimension.active r.plan.dimensions := by
  rw [made.dimensions_eq, made.verdict_catalog, Catalog.verdict_of_valid made.valid_verdict]
  rfl

end Catalog

variable {registry : Registry} {settings : Settings} {r : Request} {slugs : List String}
  {q q' : Query} (made : Compilation registry settings r q)
  (made' : Compilation registry settings (r.addMetrics slugs) q')

include made

theorem statement_eq : q.statement = {
    columns := q.statement.columns
    table := made.first.table.text
    conditions := q.statement.conditions
    groups := made.selection.groups r.plan
    order := r.plan.order made.verdict.metrics made.verdict.dimensions
    limit := Settings.rowLimit r.plan.limit settings.defaultRows settings.maxRows } := by
  have hstatement := congrArg (fun q' : Query => q'.statement) made.made
  rw [made.columns_eq, made.conditions_eq]
  exact hstatement

include made'

/-- What was resolved goes through the same steps, and the added metrics with it. -/
theorem nonempty_grown {added : List Metric} (hmetrics : q'.metrics = q.metrics ++ added)
    (hdimensions : q'.dimensions = q.dimensions) :
    Nonempty (Statement.Grown q.metrics added (retained q.dimensions r.plan.filters)
      ((metricTexts added).removeAll (metricTexts q.metrics)).eraseDups
      q.statement q'.statement) := by
  rw [made.metrics_eq, made'.metrics_eq] at hmetrics
  rw [made.dimensions_eq, made'.dimensions_eq] at hdimensions
  have hne : made.verdict.metrics ≠ [] := List.ne_nil_of_mem made.first_mem
  have hfirst : made'.first = made.first := by
    have hhead : made'.verdict.metrics.head? = some made.first := by
      rw [hmetrics, List.head?_append, made.first_metric, Option.some_or]
    exact Option.some.inj (made'.first_metric.symm.trans hhead)
  have hselected' := made'.selected
  rw [hfirst, hmetrics, hdimensions] at hselected'
  obtain ⟨more, hshared, hmore, hselection⟩ :=
    Selection.exists_of_append made.selected hselected'
  have hrestricted' := made'.restricted
  rw [hmetrics, hselection] at hrestricted'
  obtain ⟨scope, filters, shared, fragments, hscope, hsharedTexts, htexts, hfilters, hconditions,
    hconditions'⟩ := Restriction.exists_of_append made.restricted hrestricted'
  have hgroups : made'.selection.groups (r.addMetrics slugs).plan =
      made.selection.groups r.plan := by
    rw [hselection]
    rfl
  have horder := Plan.order_append r slugs hne added made.verdict.dimensions
  have hlimit : (r.addMetrics slugs).plan.limit = r.plan.limit := rfl
  rw [made.metrics_eq, made.dimensions_eq]
  refine ⟨{
    metricColumns := Selection.metricColumns made.selection.metrics
    addedColumns := Selection.metricColumns more
    dimensionColumns := made.selection.dimensions.map (·.column r.plan)
    scope, shared, fragments, filters
    shows_metrics := Selection.shows_metricColumns hshared
    shows_added := Selection.shows_metricColumns hmore
    scope_ne_nil := hscope
    shared_texts := hsharedTexts ▸ firstOccurrences_eraseDups (metricTexts made.verdict.metrics)
    texts_eq := htexts
    states := made.resolves.states_ofFilters hfilters
    columns := made.columns_eq
    columns' := ?_
    conditions := made.conditions_eq.trans hconditions
    conditions' := made'.conditions_eq.trans hconditions'
    same := ?_ }⟩
  · rw [made'.columns_eq, hselection, Selection.columns, List.map_append]
    rfl
  · rw [made'.statement_eq, made.statement_eq, hfirst, hgroups, hmetrics, hdimensions, horder,
      hlimit]

end Compilation

/-! ## Added metrics -/

/-- The second query is the first with further metrics, and these are the texts of their conditions
that no metric of the first has. -/
structure Query.Grown (c : Catalog) (p : Plan) (slugs : List String) (q q' : Query)
    (added : List Metric) (texts : List String) : Prop where
  metrics_eq : q'.metrics = q.metrics ++ added
  added_slugs : FirstOccurrences (added.map Metric.slug) (slugs.removeAll p.metrics)
  added_found : ∀ m ∈ added, c.metrics.find? m.slug = some m
  dimensions_eq : q'.dimensions = q.dimensions
  distinct : FirstOccurrences texts ((metricTexts added).removeAll (metricTexts q.metrics))
  statement : Nonempty (Statement.Grown q.metrics added (retained q.dimensions p.filters) texts
    q.statement q'.statement)
  params_eq : q'.params = q.params
  conditionText : ∃ leading trailing, q.statement.conditionText = leading ++ trailing ∧
    q'.statement.conditionText = leading ++ joinedTexts texts ++ trailing
  conditionText_eq_iff : q'.statement.conditionText = q.statement.conditionText ↔
    ∀ t ∈ metricTexts added, t ∈ metricTexts q.metrics
  /-- The queries are written with these conditions, and alike from there on. -/
  sql : (∀ t ∈ q'.statement.sources, HoleFree t.toList) → ∃ rest,
    q.sql.toList = q.statement.opening ++ q.statement.conditionText ++ rest ∧
      q'.sql.toList = q'.statement.opening ++ q'.statement.conditionText ++ rest

/-- Two statements of which one has more metrics end alike. -/
theorem Sql.Statement.Grown.exists_rest {metrics added : List Metric}
    {kept : List (Filter × Dimension)} {texts : List String} {s s' : Statement}
    (g : Grown metrics added kept texts s s') (h : ∀ t ∈ s'.sources, HoleFree t.toList) :
    ∃ rest, s.text.toList = s.opening ++ s.conditionText ++ rest ∧
      s'.text.toList = s'.opening ++ s'.conditionText ++ rest := by
  have hfree : ∀ t ∈ s.sources, HoleFree t.toList := by
    intro t ht
    exact h t (g.sources_subset ht)
  refine ⟨s.closing ++ placeholder (s.params.length - 1), ?_, ?_⟩
  · rw [← List.append_assoc]
    exact text_eq hfree
  · rw [← List.append_assoc, ← g.closing_eq, ← g.params_eq]
    exact text_eq h

/-- **Added metrics add conditions.** -/
theorem exists_grown {c : Catalog} {settings : Settings} {r : Request} {slugs : List String}
    {q q' : Query} (h : (compile c.registry settings r).outcome = .ok q)
    (h' : (compile c.registry settings (r.addMetrics slugs)).outcome = .ok q') :
    ∃ added texts, q.Grown c r.plan slugs q' added texts := by
  obtain ⟨made⟩ := exists_compilation h
  obtain ⟨made'⟩ := exists_compilation h'
  let added := c.metrics.selected Metric.active (slugs.removeAll r.plan.metrics)
  have hmetrics : q'.metrics = q.metrics ++ added := by
    rw [made.metrics_selected, made'.metrics_selected]
    exact c.metrics.selected_append Metric.active r.plan.metrics slugs
  have hdimensions : q'.dimensions = q.dimensions := by
    rw [made.dimensions_selected, made'.dimensions_selected]
    rfl
  have hactive : ∀ s ∈ slugs.removeAll r.plan.metrics,
      ∃ m, c.metrics.find? s = some m ∧ m.active = true := by
    intro s hs
    exact made'.accepts.metrics s (List.mem_append_right _ (mem_removeAll.1 hs).1)
  obtain ⟨g⟩ := made.nonempty_grown made' hmetrics hdimensions
  have hdistinct := firstOccurrences_eraseDups
    ((metricTexts added).removeAll (metricTexts q.metrics))
  exact ⟨added, _, {
    metrics_eq := hmetrics
    added_slugs := SlugMap.firstOccurrences_selected hactive
    added_found := fun m hm => (SlugMap.mem_selected.1 hm).2.1
    dimensions_eq := hdimensions
    distinct := hdistinct
    statement := ⟨g⟩
    params_eq := g.params_eq
    conditionText := g.exists_conditionText
    conditionText_eq_iff := g.conditionText_eq_iff hdistinct
    sql := g.exists_rest }⟩

def golfRequest : Request where
  plan := { metrics := ["rounds_played"] }
  tenant := "acme"

theorem exists_golfQuery :
    ∃ q, (compile Reporting.catalog.registry {} golfRequest).outcome = .ok q :=
  exists_of_isOk (by decide +kernel)

theorem exists_golfQuery_added :
    ∃ q, (compile Reporting.catalog.registry {}
      (golfRequest.addMetrics ["member_rounds"])).outcome = .ok q :=
  exists_of_isOk (by decide +kernel)

theorem exists_grown_golf :
    ∃ q q', (compile Reporting.catalog.registry {} golfRequest).outcome = .ok q ∧
      (compile Reporting.catalog.registry {} (golfRequest.addMetrics ["member_rounds"])).outcome =
        .ok q' ∧
      ∃ added texts,
        q.Grown Reporting.catalog golfRequest.plan ["member_rounds"] q' added texts := by
  obtain ⟨q, hq⟩ := exists_golfQuery
  obtain ⟨q', hq'⟩ := exists_golfQuery_added
  exact ⟨q, q', hq, hq', exists_grown hq hq'⟩

/-- Two metrics of one table: selected with the rounds of members, the rounds played are those of
members only. -/
theorem exists_narrowed :
    ∃ q q', (compile Reporting.catalog.registry {} golfRequest).outcome = .ok q ∧
      (compile Reporting.catalog.registry {} (golfRequest.addMetrics ["member_rounds"])).outcome =
        .ok q' ∧
      (∀ m ∈ q'.metrics, m.table.text = q'.primaryTable) ∧
      q.statement.conditionText = "tenant_id = $1".toList ∧
      q'.statement.conditionText = "tenant_id = $1 AND (player_type = 'member')".toList ∧
      q'.statement.conditionText ≠ q.statement.conditionText := by
  have hmade : (compile Reporting.catalog.registry {} golfRequest).outcome.toOption.map
      (fun q => q.statement.conditionText) = some "tenant_id = $1".toList := by
    decide +kernel
  have hmade' : (compile Reporting.catalog.registry {}
      (golfRequest.addMetrics ["member_rounds"])).outcome.toOption.map
        (fun q => (q.statement.conditionText,
          decide (∀ m ∈ q.metrics, m.table.text = q.primaryTable))) =
        some ("tenant_id = $1 AND (player_type = 'member')".toList, true) := by
    decide +kernel
  obtain ⟨q, hq⟩ := exists_golfQuery
  obtain ⟨q', hq'⟩ := exists_golfQuery_added
  rw [hq] at hmade
  rw [hq'] at hmade'
  have hcondition : q.statement.conditionText = "tenant_id = $1".toList := Option.some.inj hmade
  obtain ⟨hcondition', htables⟩ := Prod.mk.inj (Option.some.inj hmade')
  refine ⟨q, q', hq, hq', of_decide_eq_true htables, hcondition, hcondition', ?_⟩
  rw [hcondition, hcondition']
  decide

end MetricQuery
