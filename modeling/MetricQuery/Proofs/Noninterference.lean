import MetricQuery.Proofs.Restriction

/-!
# Values stay out of the text

**Theorem (`alike_of_agrees`).** Two requests to one catalog that agree in all but their values give
queries with the same text and the same outline, the limit apart. The values are the tenant, the
location, the dates, the operands of filters, the limit and the most days.

The catalog looks at the slugs and the operators of filters only, so both requests get one verdict
(`Plan.Agrees.verdict_eq`), and with it one selection. Each predicate is then the same but for what
its holes hold (`form_eq_of_agrees`), and neither the template of a statement nor the names of its
holes depend on that (`text_eq_of_form`).
-/

namespace MetricQuery

open Sql

/-! ## Requests that agree -/

/-- Two conditions compare in one way, whatever they compare with. A truth value to be equal to is
written out, so it must be the same. -/
inductive Condition.Agrees : Condition → Condition → Prop
  | truth {o o' : Operand} (b : Bool) (h : o.value = .bool b) (h' : o'.value = .bool b) :
      Agrees (.equals o) (.equals o')
  | equals {o o' : Operand} (h : ∀ b, o.value ≠ .bool b) (h' : ∀ b, o'.value ≠ .bool b) :
      Agrees (.equals o) (.equals o')
  | oneOf {choices choices' : List Json} (h : choices.length = choices'.length) :
      Agrees (.oneOf choices) (.oneOf choices')
  | atLeast (o o' : Operand) : Agrees (.atLeast o) (.atLeast o')
  | atMost (o o' : Operand) : Agrees (.atMost o) (.atMost o')
  | between (low low' high high' : Operand) : Agrees (.between low high) (.between low' high')
  | contains (o o' : Operand) : Agrees (.contains o) (.contains o')

theorem Condition.Agrees.operator_eq {c c' : Condition} (h : c.Agrees c') :
    c.operator = c'.operator := by
  cases h <;> rfl

/-- Two filters compare one dimension in one way. -/
structure Filter.Agrees (f f' : Filter) : Prop where
  slug : f.slug = f'.slug
  condition : f.condition.Agrees f'.condition

/-- Two plans ask for one thing, but for values. -/
structure Plan.Agrees (p p' : Plan) : Prop where
  metrics : p.metrics = p'.metrics
  dimensions : p.dimensions = p'.dimensions
  filters : List.Forall₂ Filter.Agrees p.filters p'.filters
  dateRange : p.dateRange.isSome = p'.dateRange.isSome
  bucket : p.bucket = p'.bucket
  sort : p.sort = p'.sort

/-- Two requests ask for one thing, but for values. -/
structure Request.Agrees (r r' : Request) : Prop where
  plan : r.plan.Agrees r'.plan
  location : r.location.isSome = r'.location.isSome
  lens : r.lens = r'.lens

namespace Plan.Agrees

variable {p p' : Plan} (h : p.Agrees p')

include h

theorem slugs_eq : p.filters.map Filter.slug = p'.filters.map Filter.slug :=
  map_eq_map_of_forall₂ (fun _ _ hf => hf.slug) h.filters

/-! ## The verdict -/

theorem filterObjections_eq (c : Catalog) :
    p.filters.filterMap (c.filterObjection p) = p'.filters.filterMap (c.filterObjection p') := by
  have hone : ∀ f f' : Filter, f.Agrees f' →
      Option.Rel (· = ·) (c.filterObjection p f) (c.filterObjection p' f') := by
    intro f f' hf
    have heq : c.filterObjection p f = c.filterObjection p' f' := by
      simp only [Catalog.filterObjection, h.dimensions, hf.slug, hf.condition.operator_eq]
    rw [heq]
    cases c.filterObjection p' f' with
    | none => exact .none
    | some _ => exact .some rfl
  rw [← List.forall₂_eq_eq_eq]
  exact List.rel_filterMap hone h.filters

/-- Plans that agree get one verdict. -/
theorem verdict_eq (c : Catalog) (lens : Option String) : c.verdict p lens = c.verdict p' lens := by
  have hlens : ∀ slug, c.lensObjections p slug = c.lensObjections p' slug := by
    intro slug
    simp only [Catalog.lensObjections, h.metrics, h.dimensions]
  have hsort : Catalog.sortObjection p = Catalog.sortObjection p' := by
    funext k
    simp only [Catalog.sortObjection, h.metrics, h.dimensions]
  have hmetrics : c.selectedMetrics p = c.selectedMetrics p' := by
    simp only [Catalog.selectedMetrics, h.metrics]
  have hdimensions : c.selectedDimensions p = c.selectedDimensions p' := by
    simp only [Catalog.selectedDimensions, h.dimensions]
  have hobjections : c.objections p lens = c.objections p' lens := by
    simp only [Catalog.objections, hmetrics, hdimensions, h.metrics, h.dimensions, h.sort, hsort,
      funext hlens, h.filterObjections_eq c]
  simp only [Catalog.verdict, hobjections, hmetrics, hdimensions]

/-! ## The outline -/

theorem warnings_eq (primary : String) (metrics : List Metric) (dimensions : List Dimension) :
    Warning.all primary p metrics dimensions = Warning.all primary p' metrics dimensions := by
  have hskipped : ∀ q : Plan, (q.filters.filter fun f =>
      !(dimensions.map Dimension.slug).contains f.slug).map
        (fun f => Warning.filterSkipped f.slug) =
        ((q.filters.map Filter.slug).filter fun s =>
          !(dimensions.map Dimension.slug).contains s).map Warning.filterSkipped := by
    intro q
    rw [List.filter_map, List.map_map]
    rfl
  have hrange : p.dateRange.isNone = p'.dateRange.isNone := by
    rw [← Option.not_isSome, h.dateRange, Option.not_isSome]
  simp only [Warning.all, hskipped, h.slugs_eq, hrange, h.bucket]

theorem order_eq (metrics : List Metric) (dimensions : List Dimension) :
    p.order metrics dimensions = p'.order metrics dimensions := by
  simp only [Plan.order, h.sort]

theorem columns_eq (s : Selection) : s.columns p = s.columns p' := by
  simp only [Selection.columns, SelectedDimension.column, SelectedDimension.expr,
    Plan.coarseBucket, h.bucket]

theorem groups_eq (s : Selection) : s.groups p = s.groups p' := by
  simp only [Selection.groups, SelectedDimension.expr, Plan.coarseBucket, h.bucket]

theorem kept_agree (s : Selection) :
    List.Forall₂ (fun (k k' : Filter × Fragment) => k.1.Agrees k'.1 ∧ k.2 = k'.2)
      (Restriction.kept s p.filters) (Restriction.kept s p'.filters) := by
  refine List.rel_filterMap (fun f f' hf => ?_) h.filters
  rw [hf.slug]
  cases s.find? f'.slug with
  | none => exact .none
  | some d => exact .some ⟨hf, rfl⟩

end Plan.Agrees

/-! ## Forms -/

namespace Sql

/-- A piece without the value in it. -/
def Piece.blank : Piece → Piece
  | text s => text s
  | hole stem _ => hole stem .null

namespace Piece

theorem template_blank (g : Naming) (ps : List Piece) :
    template g (ps.map blank) = template g ps := by
  induction ps generalizing g with
  | nil => rfl
  | cons p ps ih => cases p <;> simp [blank, template, ih]

theorem names_blank (g : Naming) (ps : List Piece) : names g (ps.map blank) = names g ps := by
  induction ps generalizing g with
  | nil => rfl
  | cons p ps ih => cases p <;> simp [blank, names, ih]

theorem length_values_blank (ps : List Piece) :
    (values (ps.map blank)).length = (values ps).length := by
  induction ps with
  | nil => rfl
  | cons p ps ih => cases p <;> simp [blank, values, ih]

theorem map_blank_join (separator : String) (pss : List (List Piece)) :
    (join separator pss).map blank = join separator (pss.map (List.map blank)) := by
  fun_induction join separator pss with
  | case1 => rfl
  | case2 ps => rfl
  | case3 ps rest hne ih =>
    cases rest with
    | nil => exact absurd rfl hne
    | cons qs rest => simp [join, blank, ih]

end Piece

/-- A predicate as it is written, without its values. -/
def Predicate.form (p : Predicate) : List Piece := p.pieces.map Piece.blank

theorem form_compare (s : Subject) (c : Comparison) (v : Json) :
    (Predicate.compare s c v).form = [.text (s.text ++ c.symbol), .hole s.stem .null] := rfl

theorem form_equality {s : Subject} {o : Operand} (h : ∀ b, o.value ≠ .bool b) :
    (Predicate.equality s o.value).form = [.text (s.text ++ " = "), .hole s.stem .null] := by
  obtain ⟨v, hv⟩ := o
  cases v with
  | null => simp [Json.isNull] at hv
  | bool b => exact absurd rfl (h b)
  | _ => rfl

theorem form_inequality {s : Subject} {c : Comparison} {v : Json} {p : Predicate}
    (h : Predicate.inequality? s c v = some p) :
    p.form = [.text (s.text ++ c.symbol), .hole s.stem .null] := by
  cases v with
  | null | bool b => simp [Predicate.inequality?] at h
  | _ =>
    obtain rfl := by simpa [Predicate.inequality?] using h
    rfl

theorem form_oneOf (s : Subject) (choices : List Json) :
    (Predicate.oneOf s choices).form = .text (s.text ++ " IN (") ::
      Piece.join ", " (List.replicate choices.length [.hole plainStem .null]) ++ [.text ")"] := by
  have hholes : (choices.map fun v => [Piece.hole plainStem v]).map (List.map Piece.blank) =
      List.replicate choices.length [.hole plainStem .null] := by
    rw [List.map_map, ← List.map_const]
    rfl
  simp [Predicate.form, Predicate.pieces, Piece.blank, Piece.map_blank_join, hholes]

end Sql

/-- Conditions that agree give predicates of one form. -/
theorem form_eq_of_agrees {c c' : Condition} (h : c.Agrees c') {s : Subject} {p p' : Predicate}
    (hp : c.predicate s = .ok p) (hp' : c'.predicate s = .ok p') : p.form = p'.form := by
  cases h with
  | truth b h h' =>
    obtain rfl := Except.ok.inj hp
    obtain rfl := Except.ok.inj hp'
    rw [h, h']
  | equals h h' =>
    obtain rfl := Except.ok.inj hp
    obtain rfl := Except.ok.inj hp'
    rw [form_equality h, form_equality h']
  | oneOf h =>
    obtain rfl := Except.ok.inj hp
    obtain rfl := Except.ok.inj hp'
    rw [form_oneOf, form_oneOf, h]
  | atLeast _ _ | atMost _ _ =>
    rw [form_inequality (eq_some_of_ordered hp), form_inequality (eq_some_of_ordered hp')]
  | between _ _ _ _ =>
    obtain rfl := Except.ok.inj hp
    obtain rfl := Except.ok.inj hp'
    rfl
  | contains _ _ =>
    obtain ⟨-, rfl⟩ := Condition.contains_eq_ok_iff.1 hp
    obtain ⟨-, rfl⟩ := Condition.contains_eq_ok_iff.1 hp'
    rfl

theorem forms_eq_of_ofFilters {s : Selection} {p p' : Plan} (h : p.Agrees p')
    {ps ps' : List Predicate} (hps : Restriction.ofFilters s p.filters = .ok ps)
    (hps' : Restriction.ofFilters s p'.filters = .ok ps') :
    ps.map Predicate.form = ps'.map Predicate.form := by
  have hkept := h.kept_agree s
  have hmade := mapM_eq_ok.1 hps
  have hmade' := mapM_eq_ok.1 hps'
  clear hps hps'
  generalize Restriction.kept s p.filters = ks at hkept hmade
  generalize Restriction.kept s p'.filters = ks' at hkept hmade'
  induction hkept generalizing ps ps' with
  | nil =>
    cases hmade
    cases hmade'
    rfl
  | @cons k k' _ _ hk _ ih =>
    obtain ⟨f, e⟩ := k
    obtain ⟨f', e'⟩ := k'
    obtain ⟨hf, rfl⟩ : f.Agrees f' ∧ e = e' := hk
    cases hmade with
    | cons hp hrest =>
      cases hmade' with
      | cons hp' hrest' =>
        have hform := form_eq_of_agrees hf.condition hp hp'
        rw [List.map_cons, List.map_cons, hform, ih hrest hrest']

theorem isSome_of_span {settings : Settings} {r : Request} {days : Option Span}
    (h : Restriction.span settings r = .ok days) : days.isSome = r.plan.dateRange.isSome := by
  have hdays := exists_days h
  generalize r.plan.dateRange = range at hdays
  cases days <;> cases hdays <;> rfl

/-- Requests that agree restrict rows by predicates of the same forms. -/
theorem forms_eq_of_agrees {settings : Settings} {r r' : Request} (h : r.Agrees r')
    {metrics : List Metric} {s : Selection} {ps ps' : List Predicate}
    (hps : Restriction.all settings r metrics s = .ok ps)
    (hps' : Restriction.all settings r' metrics s = .ok ps') :
    ps.map Predicate.form = ps'.map Predicate.form := by
  obtain ⟨days, ofM, ofF, hdays, hofM, -, hofF, rfl⟩ := Restriction.all_eq_ok.1 hps
  obtain ⟨days', ofM', ofF', hdays', hofM', -, hofF', rfl⟩ := Restriction.all_eq_ok.1 hps'
  obtain rfl : ofM = ofM' := Except.ok.inj (hofM.symm.trans hofM')
  have hscope : (Restriction.scope settings r).map Predicate.form =
      (Restriction.scope settings r').map Predicate.form := by
    have hlocation := h.location
    cases hl : r.location <;> cases hl' : r'.location <;>
      simp [Restriction.scope, form_compare, hl, hl'] at hlocation ⊢
  have htime : (days.map (Restriction.ofSpan (s.timeSubject settings.timeColumn))).toList.map
      Predicate.form =
        (days'.map (Restriction.ofSpan (s.timeSubject settings.timeColumn))).toList.map
          Predicate.form := by
    have hsome : days.isSome = days'.isSome := by
      rw [isSome_of_span hdays, isSome_of_span hdays', h.plan.dateRange]
    cases days <;> cases days' <;> simp [Restriction.ofSpan] at hsome ⊢
    rfl
  simp only [List.map_append, hscope, htime, forms_eq_of_ofFilters h.plan hofF hofF']

/-! ## Queries -/

namespace Sql.Statement

section Blank

variable {s s' : Statement} (hcolumns : s.columns = s'.columns) (htable : s.table = s'.table)
  (hgroups : s.groups = s'.groups) (horder : s.order = s'.order)
  (hconditions : s.conditions.map Predicate.form = s'.conditions.map Predicate.form)

include hcolumns htable hgroups horder hconditions

theorem blank_pieces_eq : s.pieces.map Piece.blank = s'.pieces.map Piece.blank := by
  have hcondition : ∀ t : Statement, t.conditionPieces.map Piece.blank =
      Piece.join " AND " (t.conditions.map Predicate.form) := by
    intro t
    rw [conditionPieces, Piece.map_blank_join, List.map_map]
    rfl
  have htexts : s.columnTexts = s'.columnTexts := by
    rw [columnTexts, columnTexts, labels, labels, hcolumns]
  simp [pieces, Piece.blank, hcondition, htexts, htable, hgroups, horder, hconditions]

/-- Statements that differ in the values of their predicates and in their limit have one text. -/
theorem text_eq_of_form : s.text = s'.text := by
  have hpieces := blank_pieces_eq hcolumns htable hgroups horder hconditions
  rw [text, text, ← Piece.template_blank, ← Piece.names_blank, hpieces, Piece.template_blank,
    Piece.names_blank]

/-- They also have as many parameters. -/
theorem length_params_eq_of_form : s.params.length = s'.params.length := by
  rw [params, params, ← Piece.length_values_blank, ← Piece.length_values_blank s'.pieces,
    blank_pieces_eq hcolumns htable hgroups horder hconditions]

end Blank

end Sql.Statement

/-- Two queries are the same, but for their parameters and their limit. -/
structure Query.Alike (q q' : Query) : Prop where
  sql : q.sql = q'.sql
  metrics : q.metrics = q'.metrics
  dimensions : q.dimensions = q'.dimensions
  primaryTable : q.primaryTable = q'.primaryTable
  joinTables : q.joinTables = q'.joinTables
  warnings : q.warnings = q'.warnings

/-- The request of another tenant that agrees with the sample. -/
def otherRequest : Request where
  plan :=
    { sampleRequest.plan with
      filters :=
        [⟨"region", .oneOf [.str "' OR 1 = 1", .arr [.int 7]]⟩,
          ⟨"colour", .equals ⟨.int 5, rfl⟩⟩, ⟨"region", .equals sampleTruth⟩,
          ⟨"region", .contains ⟨.obj [], rfl⟩⟩]
      dateRange := some ⟨"2023-01-01", "2023-01-31"⟩
      limit := some 5 }
  tenant := "\"; DROP TABLE reports"
  location := some "$1"
  maxDays := some 31

/-- **Values stay out of the text.** -/
theorem alike_of_agrees {c : Catalog} {settings : Settings} {r r' : Request} {q q' : Query}
    (h : r.Agrees r') (hmade : (compile c.registry settings r).outcome = .ok q)
    (hmade' : (compile c.registry settings r').outcome = .ok q') : q.Alike q' := by
  obtain ⟨⟨verdict, first, selection, conditions, hanswer, -, hfirst, hselected, hrestricted,
    rfl⟩⟩ := exists_compilation hmade
  obtain ⟨⟨verdict', first', selection', conditions', hanswer', -, hfirst', hselected',
    hrestricted', rfl⟩⟩ := exists_compilation hmade'
  -- One verdict, so one first metric and one selection: only the conditions are left to differ.
  obtain rfl : verdict = verdict' := by
    have hverdict : c.verdict r.plan r.lens = c.verdict r'.plan r'.lens := by
      rw [h.plan.verdict_eq, h.lens]
    exact (Except.ok.inj hanswer).symm.trans (hverdict.trans (Except.ok.inj hanswer'))
  obtain rfl : first = first' := Option.some.inj (hfirst.symm.trans hfirst')
  obtain rfl : selection = selection' := Except.ok.inj (hselected.symm.trans hselected')
  exact {
    sql := Statement.text_eq_of_form (h.plan.columns_eq _) rfl (h.plan.groups_eq _)
      (h.plan.order_eq _ _) (forms_eq_of_agrees h hrestricted hrestricted')
    metrics := rfl
    dimensions := rfl
    primaryTable := rfl
    joinTables := rfl
    warnings := congrArg (List.map Warning.message) (h.plan.warnings_eq _ _ _) }

theorem alike_of_agrees_sample :
    ∃ c q q', sampleRequest.Agrees otherRequest ∧
      (compile (Catalog.registry c) {} sampleRequest).outcome = .ok q ∧
        (compile (Catalog.registry c) {} otherRequest).outcome = .ok q' ∧ q.Alike q' := by
  have h : sampleRequest.Agrees otherRequest := {
    plan := {
      metrics := rfl
      dimensions := rfl
      filters := .cons ⟨rfl, .oneOf rfl⟩ (.cons ⟨rfl, .equals (by simp) (by simp)⟩
        (.cons ⟨rfl, .truth true rfl rfl⟩ (.cons ⟨rfl, .contains _ _⟩ .nil)))
      dateRange := rfl
      bucket := rfl
      sort := rfl }
    location := rfl
    lens := rfl }
  let c : Catalog := .ofLists sampleVerdict.metrics sampleVerdict.dimensions []
  obtain ⟨q, hq⟩ : ∃ q, (compile c.registry {} sampleRequest).outcome = .ok q :=
    exists_of_isOk (by decide +kernel)
  obtain ⟨q', hq'⟩ : ∃ q, (compile c.registry {} otherRequest).outcome = .ok q :=
    exists_of_isOk (by decide +kernel)
  exact ⟨c, q, q', h, hq, hq', alike_of_agrees h hq hq'⟩

end MetricQuery
