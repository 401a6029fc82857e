import MetricQuery.Proofs.Acceptance
import MetricQuery.Proofs.Precedence
import MetricQuery.Proofs.Stated

/-!
# What can come of a submission

**Theorem (`outcomes_of_catalog`).** Asked about definitions that are vouched for, a catalog's
compiler gives a query, or an error with one of the six codes, or it fails at a filter that cannot
be stated. It gives a query exactly if no code is deserved and every filter on a selected dimension
can be stated, and if not, the first filter that cannot decides how it fails.

The last of the three is not an answer to the caller. Equality and choices take truth values, and so
do both bounds of an interval, but `atLeast` and `atMost` do not, and no check before them looks for
one (`not_always_answered`). Nor does one look for numbers of more digits than are written out, and
a pattern is made from what is written. The type of a dimension tells which of the two can happen
(`Condition.FailsWith.type_cases`).
-/

namespace MetricQuery

open Sql

/-! ## Filters that cannot be stated -/

/-- A filter on a selected dimension cannot be stated. -/
def Request.HasUnstated (r : Request) : Prop :=
  ∃ f ∈ r.plan.filters, f.slug ∈ r.plan.dimensions ∧ ∃ x, f.condition.FailsWith x

/-- The first such filter fails in this way. -/
def Request.StopsWith (r : Request) (x : Failure) : Prop :=
  StopsAt r.plan.dimensions r.plan.filters x

theorem Request.exists_stopsWith_iff {r : Request} : (∃ x, r.StopsWith x) ↔ r.HasUnstated :=
  StopsAt.exists_iff

def Submission.HasUnstated (s : Submission) : Prop := ∃ r, s.read = .accepted r ∧ r.HasUnstated

def Submission.StopsWith (s : Submission) (x : Failure) : Prop :=
  ∃ r, s.read = .accepted r ∧ r.StopsWith x

/-- A comparison that a column takes fails for want of an order on numbers, dates and instants only,
and for a number that is too long on texts only. -/
theorem Condition.FailsWith.type_cases {c : Condition} {t : ColumnType} {x : Failure}
    (hsuits : c.operator ∈ t.operators) (h : c.FailsWith x) :
    x = .unordered ∧ t ≠ .string ∧ t ≠ .boolean ∨ x = .unwritten ∧ t = .string := by
  rw [ColumnType.mem_operators_iff] at hsuits
  cases h with
  | atLeast _ => exact .inl ⟨rfl, by simpa [operator, Operator.IsOrder] using hsuits⟩
  | atMost _ => exact .inl ⟨rfl, by simpa [operator, Operator.IsOrder] using hsuits⟩
  | contains _ => exact .inr ⟨rfl, by simpa [operator, Operator.IsOrder] using hsuits⟩

/-! ## Definitions of a catalog -/

/-- What a catalog resolves is vouched for if its definitions are. -/
theorem Catalog.vouched_verdict {metrics : List Metric} {dimensions : List Dimension}
    (lenses : List Lens) (hmetrics : ∀ m ∈ metrics, m.Vouched)
    (hdimensions : ∀ d ∈ dimensions, d.expression.trusted = true) (p : Plan)
    (lens : Option String) : ((ofLists metrics dimensions lenses).verdict p lens).Vouched := by
  unfold verdict
  dsimp only
  split
  · constructor
    · exact fun m hm => hmetrics m (SlugMap.mem_of_mem_selected hm)
    · exact fun d hd => hdimensions d (SlugMap.mem_of_mem_selected hd)
  · exact ⟨by simp, by simp⟩

/-! ## Requests that deserve no code -/

section Clear

variable {registry : Registry} {settings : Settings} {r : Request} {v : Verdict}

/-- If no code is deserved, only the filters that are kept can be in the way of a query. -/
theorem exists_build (h : v.Vouched) (hclear : ∀ code, ¬ r.FailsAt registry settings code)
    (primary : String) :
    ∃ selection, selection.Resolves primary v.metrics v.dimensions ∧
      (∀ ps, Restriction.ofFilters selection r.plan.filters = .ok ps →
        ∃ q, Query.build settings r primary v.metrics v.dimensions = .ok q) ∧
      ∀ e, Restriction.ofFilters selection r.plan.filters = .error e →
        Query.build settings r primary v.metrics v.dimensions = .error e := by
  obtain ⟨selection, hselected⟩ := Selection.exists_ofDefinitions h primary
  have hspan : Checks (r.FailsAt registry settings) _ (Restriction.span settings r) :=
    Restriction.checks_span
  have hcheck : Checks (r.FailsAt registry settings) _ (Restriction.checkChoices r.plan.filters) :=
    Restriction.checks_checkChoices
  obtain ⟨days, hdays⟩ := hspan.exists_ok fun code _ => hclear code
  obtain ⟨ofM, hofM⟩ := Restriction.exists_ofMetrics h
  obtain ⟨_, hchoices⟩ := hcheck.exists_ok fun code _ => hclear code
  refine ⟨selection, Selection.resolves_of_ofDefinitions hselected, fun ps hps => ?_,
    fun e he => ?_⟩
  · have hall := Restriction.all_eq_ok.2 ⟨days, ofM, ps, hdays, hofM, hchoices, hps, rfl⟩
    exact ⟨_, bind_eq_ok.2 ⟨selection, hselected, bind_eq_ok.2 ⟨_, hall, rfl⟩⟩⟩
  · have hall : Restriction.all settings r v.metrics selection = .error e := by
      simp only [Restriction.all, hdays, hofM, hchoices, he]
      rfl
    simp only [Query.build, hselected, bind, Except.bind, hall]

theorem build_cases (h : v.Vouched) (hclear : ∀ code, ¬ r.FailsAt registry settings code)
    (hslugs : ∀ s, s ∈ v.dimensions.map Dimension.slug ↔ s ∈ r.plan.dimensions)
    (primary : String) :
    ((∀ x, ¬ r.StopsWith x) ∧
        ∃ q, Query.build settings r primary v.metrics v.dimensions = .ok q) ∨
      ∃ x, r.StopsWith x ∧
        Query.build settings r primary v.metrics v.dimensions = .error x := by
  obtain ⟨selection, hresolves, hok, herror⟩ := exists_build h hclear primary
  have hsame : ∀ s, s ∈ selection.slugs ↔ s ∈ r.plan.dimensions := by
    rwa [hresolves.slugs_eq]
  obtain ⟨hnone, ps, hps⟩ | ⟨x, hstops, hfilters⟩ :=
    Restriction.ofFilters_cases selection r.plan.filters
  · exact .inl ⟨fun x hx => hnone x (hx.of_slugs fun s => (hsame s).symm), hok ps hps⟩
  · exact .inr ⟨x, hstops.of_slugs hsame, herror x hfilters⟩

end Clear

/-! ## Outcomes -/

/-- What comes of a submission, and when. -/
structure Submission.Outcomes (registry : Registry) (settings : Settings) (s : Submission)
    (outcome : Except Failure Query) : Prop where
  closed : (∃ q, outcome = .ok q) ∨ (∃ e, outcome = .error (.compile e) ∧ e.code ∈ ErrorCode.all) ∨
    outcome = .error .unordered ∨ outcome = .error .unwritten
  query : (∃ q, outcome = .ok q) ↔
    (∀ code, ¬ s.FailsAt registry settings code) ∧ ¬ s.HasUnstated
  error : (∃ e, outcome = .error (.compile e)) ↔ ∃ code, s.FailsAt registry settings code
  /-- Whatever has no code is what the first filter that cannot be stated fails with. -/
  stopped : ∀ x, (∀ e, x ≠ .compile e) →
    (outcome = .error x ↔ (∀ code, ¬ s.FailsAt registry settings code) ∧ s.StopsWith x)

theorem ErrorCode.mem_all (code : ErrorCode) : code ∈ all := by cases code <;> decide

theorem ErrorCode.mem_precedence (code : ErrorCode) : code ∈ precedence := by
  cases code <;> decide

namespace Submission

variable {registry : Registry} {settings : Settings} {s : Submission}
  {outcome : Except Failure Query}

theorem exists_stopsWith_iff : (∃ x, s.StopsWith x) ↔ s.HasUnstated := by
  constructor
  · rintro ⟨x, r, hread, hstops⟩
    exact ⟨r, hread, Request.exists_stopsWith_iff.1 ⟨x, hstops⟩⟩
  · rintro ⟨r, hread, hunstated⟩
    obtain ⟨x, hstops⟩ := Request.exists_stopsWith_iff.2 hunstated
    exact ⟨x, r, hread, hstops⟩

theorem StopsWith.unique {x y : Failure} (h : s.StopsWith x) (h' : s.StopsWith y) : x = y := by
  obtain ⟨r, hread, hstops⟩ := h
  obtain ⟨r', hread', hstops'⟩ := h'
  obtain rfl := Checked.accepted.inj (hread.symm.trans hread')
  exact StopsAt.unique hstops hstops'

theorem StopsWith.eq_or {x : Failure} (h : s.StopsWith x) : x = .unordered ∨ x = .unwritten := by
  obtain ⟨r, -, hstops⟩ := h
  exact StopsAt.eq_or hstops

/-- The outcomes exclude each other, so it is enough to know when each comes about. -/
theorem Outcomes.of_cases
    (h : ((∃ e, outcome = .error (.compile e)) ∧ ∃ code, s.FailsAt registry settings code) ∨
      (∀ code, ¬ s.FailsAt registry settings code) ∧
        (((∀ x, ¬ s.StopsWith x) ∧ ∃ q, outcome = .ok q) ∨
          ∃ x, s.StopsWith x ∧ outcome = .error x)) :
    s.Outcomes registry settings outcome := by
  obtain ⟨⟨e, rfl⟩, code, hcode⟩ | ⟨hclear, ⟨hnone, q, rfl⟩ | ⟨x, hstops, rfl⟩⟩ := h
  · have hfails : ¬ ∀ code, ¬ s.FailsAt registry settings code := fun h => h code hcode
    exact {
      closed := .inr (.inl ⟨e, rfl, e.code.mem_all⟩)
      query := by simp [hfails]
      error := by simpa using ⟨code, hcode⟩
      stopped := by
        intro x hx
        simp [hfails, (hx e).symm] }
  · have hstated : ¬ s.HasUnstated := by
      rw [← exists_stopsWith_iff]
      exact not_exists.2 hnone
    exact {
      closed := .inl ⟨q, rfl⟩
      query := by simp [hclear, hstated]
      error := by simp [hclear]
      stopped := by simp [hnone] }
  · have hunstated : s.HasUnstated := exists_stopsWith_iff.1 ⟨x, hstops⟩
    have huncoded : ∀ e, x ≠ .compile e := by
      rintro e rfl
      simpa using hstops.eq_or
    exact {
      closed := by
        rcases hstops.eq_or with rfl | rfl
        · exact .inr (.inr (.inl rfl))
        · exact .inr (.inr (.inr rfl))
      query := by simp [hunstated]
      error := by simp [hclear, huncoded]
      stopped := by
        intro y _
        simp only [Except.error.injEq, hclear, not_false_eq_true, implies_true, true_and]
        constructor
        · rintro rfl
          exact hstops
        · exact hstops.unique }

end Submission

theorem exists_of_codeOf {α : Type} {x : Except Failure α} {code : ErrorCode}
    (h : codeOf x = some code) : ∃ e, x = .error (.compile e) := by
  unfold codeOf at h
  split at h
  · next e => exact ⟨e, rfl⟩
  · cases h

/-- A submission that deserves no code is a request, and the registry is asked about it. -/
theorem Submission.exists_asks {registry : Registry} {settings : Settings} {s : Submission}
    (hclear : ∀ code, ¬ s.FailsAt registry settings code) :
    ∃ r, s.Asks r ∧ ∀ code, ¬ r.FailsAt registry settings code := by
  cases hread : s.read with
  | rejected issues =>
    exact absurd (failsAt_of_rejected hread) (hclear .invalidPlan)
  | accepted r =>
    rw [failsAt_of_accepted hread] at hclear
    exact ⟨r, ⟨hread, hclear .noMetrics⟩, hclear⟩

theorem Submission.outcomes_of_vouched {c : Catalog} (h : ∀ p lens, (c.verdict p lens).Vouched)
    (settings : Settings) (s : Submission) :
    s.Outcomes c.registry settings (s.report c.registry settings).outcome := by
  have hfirst : FirstWith (s.FailsAt c.registry settings) ErrorCode.precedence
      (s.report c.registry settings).code? :=
    firstWith_report fun r _ => ⟨c.verdict r.plan r.lens, rfl, h r.plan r.lens⟩
  refine .of_cases ?_
  cases hcode : (s.report c.registry settings).code? with
  | some code =>
    rw [hcode] at hfirst
    exact .inl ⟨exists_of_codeOf hcode, code, hfirst.mem_and_holds.2⟩
  | none =>
    rw [hcode, FirstWith.none_iff] at hfirst
    have hclear : ∀ code, ¬ s.FailsAt c.registry settings code :=
      fun code => hfirst code code.mem_precedence
    obtain ⟨r, hasks, hclear'⟩ := exists_asks hclear
    have hresolves : Checks (r.FailsAt c.registry settings) _
        (c.registry.consult r.plan r.lens).resolve := checks_resolve rfl
    obtain ⟨⟨first, v⟩, hresolve⟩ := hresolves.exists_ok fun code _ => hclear' code
    obtain ⟨hanswer, hvalid, -⟩ := Consultation.resolve_eq_ok.1 hresolve
    obtain rfl : c.verdict r.plan r.lens = v := Except.ok.inj hanswer
    have hslugs := (Catalog.resolvesAll_verdict hvalid).dimension_slugs.mem
    have hstops : ∀ x, s.StopsWith x ↔ r.StopsWith x := by simp [StopsWith, hasks.1]
    simp only [hstops]
    rw [hasks.report_eq.2, hresolve]
    exact .inr ⟨hclear, build_cases (h r.plan r.lens) hclear' hslugs first.table.text⟩

/-- **The outcomes of a submission to a catalog.** Definitions that are vouched for leave a query,
an error with a code, and filters that cannot be stated. -/
theorem outcomes_of_catalog {metrics : List Metric} {dimensions : List Dimension}
    (lenses : List Lens) (hmetrics : ∀ m ∈ metrics, m.Vouched)
    (hdimensions : ∀ d ∈ dimensions, d.expression.trusted = true) (settings : Settings)
    (s : Submission) :
    s.Outcomes (Catalog.ofLists metrics dimensions lenses).registry settings
      (s.report (Catalog.ofLists metrics dimensions lenses).registry settings).outcome :=
  Submission.outcomes_of_vouched (Catalog.vouched_verdict lenses hmetrics hdimensions) settings s

/-! ## A truth value put in order -/

def sampleMetrics : List Metric :=
  [{ slug := "sales", expression := ⟨"SUM(net)", true⟩, table := ⟨"daily", true⟩ }]

def sampleDimensions : List Dimension :=
  [{ slug := "amount", expression := ⟨"amount", true⟩, table := ⟨"daily", true⟩, type := .numeric }]

/-- A well-formed submission with a filter that puts a truth value in order. -/
def sampleOrder : Json :=
  .obj [("plan", .obj
      [("metrics", .arr [.str "sales"]), ("dimensions", .arr [.str "amount"]),
        ("filters", .arr [.obj
          [("dimensionSlug", .str "amount"), ("operator", .str "gte"), ("value", .bool true)]])]),
    ("tenantId", .str "acme")]

theorem vouched_sampleMetrics : ∀ m ∈ sampleMetrics, m.Vouched := by
  intro m hm
  obtain rfl := List.mem_singleton.1 hm
  exact ⟨rfl, by simp⟩

theorem outcomes_sampleOrder :
    (Submission.json sampleOrder).Outcomes
      (Catalog.ofLists sampleMetrics sampleDimensions []).registry {}
      ((Submission.json sampleOrder).report
        (Catalog.ofLists sampleMetrics sampleDimensions []).registry {}).outcome :=
  outcomes_of_catalog [] vouched_sampleMetrics (by decide) {} _

/-- It is not so that each submission to a catalog gives a query or an error with a code. -/
theorem not_always_answered :
    ¬ ∀ (metrics : List Metric) (dimensions : List Dimension) (lenses : List Lens),
      (∀ m ∈ metrics, m.Vouched) → (∀ d ∈ dimensions, d.expression.trusted = true) →
      ∀ (settings : Settings) (input : Json),
        let outcome :=
          (compileJson (Catalog.ofLists metrics dimensions lenses).registry settings input).outcome
        (∃ q, outcome = .ok q) ∨ ∃ e : CompileError, outcome = .error (.compile e) := by
  intro h
  obtain ⟨q, hq⟩ | ⟨e, he⟩ := h sampleMetrics sampleDimensions [] vouched_sampleMetrics (by decide)
    {} sampleOrder
  · have hfails : (compileJson (Catalog.ofLists sampleMetrics sampleDimensions []).registry {}
        sampleOrder).outcome.isOk = false := by decide +kernel
    rw [hq] at hfails
    cases hfails
  · have hcode : codeOf (compileJson (Catalog.ofLists sampleMetrics sampleDimensions []).registry {}
        sampleOrder).outcome = none := by decide +kernel
    rw [he] at hcode
    cases hcode

end MetricQuery
