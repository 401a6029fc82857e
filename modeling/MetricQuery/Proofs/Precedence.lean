import MetricQuery.Proofs.Supplied

/-!
# Which error comes first

A submission may be wrong in several ways at once. `Submission.FailsAt` says for each code what is
wrong with a submission that deserves it, whatever else is.

**Theorem (`settled`).** The code of the error is the first one, in the order of
`ErrorCode.precedence`, that the submission deserves, and if it deserves none there is no error with
a code. The registry is asked once, and not at all if the first two codes are deserved; if it fails,
so does the compilation, with the same text.

Compiling is a sequence of steps, and each is a check of some codes (`Checks`): it fails with the
first of them that is deserved, or none is and it passes. Checks in sequence check their codes in
sequence (`Checks.bind`), so the order of the codes is the order of the steps.
-/

namespace MetricQuery

open Sql

/-! ## Submissions -/

/-- What is given to the compiler: a request, or a JSON value to be read as one. -/
inductive Submission where
  | request (r : Request)
  | json (v : Json)

namespace Submission

def read : Submission → Checked Request
  | request r => .accepted r
  | json v => Request.read v

def report (registry : Registry) (settings : Settings) : Submission → Report
  | request r => compile registry settings r
  | json v => compileJson registry settings v

/-- The request that the registry is asked about. -/
def Asks (s : Submission) (r : Request) : Prop := s.read = .accepted r ∧ r.plan.metrics ≠ []

variable {registry : Registry} {settings : Settings} {s : Submission}

theorem report_of_accepted {r : Request} (h : s.read = .accepted r) :
    s.report registry settings = compile registry settings r := by
  cases s with
  | request r' =>
    obtain rfl : r' = r := by simpa [read] using h
    rfl
  | json v =>
    have hread : Request.read v = .accepted r := h
    rw [report, compileJson, hread]

theorem report_of_rejected {issues : List Issue} (h : s.read = .rejected issues) :
    s.report registry settings =
      { outcome := .error (.compile (.invalidPlan Request.title issues)) } := by
  cases s with
  | request r => simp [read] at h
  | json v =>
    have hread : Request.read v = .rejected issues := h
    rw [report, compileJson, hread]

end Submission

/-! ## Codes -/

/-- The order in which a submission is checked. -/
def ErrorCode.precedence : List ErrorCode :=
  [invalidPlan, noMetrics, planValidationError, invalidDateRange, dateRangeTooLarge,
    filterEmptyValues]

/-- What is wrong with a request that deserves an error of this code. -/
def Request.FailsAt (registry : Registry) (settings : Settings) (r : Request) : ErrorCode → Prop
  | .invalidPlan => False
  | .noMetrics => r.plan.metrics = []
  | .planValidationError =>
    ∃ v, (registry.consult r.plan r.lens).answer = .ok v ∧ (v.valid = false ∨ v.metrics = [])
  | .invalidDateRange =>
    ∃ range, r.plan.dateRange = some range ∧
      ∀ span : Span, ¬ span.WrittenAs range.start range.finish
  | .dateRangeTooLarge =>
    ∃ range, r.plan.dateRange = some range ∧
      ∃ span : Span, span.WrittenAs range.start range.finish ∧
        r.maxDays.getD settings.maxDays < span.days
  | .filterEmptyValues => ∃ f ∈ r.plan.filters, f.condition = .oneOf []

/-- What is wrong with a submission that deserves an error of this code. -/
def Submission.FailsAt (registry : Registry) (settings : Settings) (s : Submission)
    (code : ErrorCode) : Prop :=
  match s.read with
  | .accepted r => r.FailsAt registry settings code
  | .rejected _ => code = .invalidPlan

theorem Submission.failsAt_of_accepted {registry : Registry} {settings : Settings}
    {s : Submission} {r : Request} (h : s.read = .accepted r) :
    s.FailsAt registry settings = r.FailsAt registry settings := by
  funext code
  rw [FailsAt, h]

theorem Submission.failsAt_of_rejected {registry : Registry} {settings : Settings}
    {s : Submission} {issues : List Issue} (h : s.read = .rejected issues) :
    s.FailsAt registry settings .invalidPlan := by
  rw [FailsAt, h]

/-- The code of a failure that has one. -/
def codeOf {α : Type} : Except Failure α → Option ErrorCode
  | .error (.compile e) => some e.code
  | _ => none

def Report.code? (r : Report) : Option ErrorCode := codeOf r.outcome

/-- The first member of a list that has a property, if any has it. -/
inductive FirstWith {α : Type} (P : α → Prop) : List α → Option α → Prop
  | none : FirstWith P [] none
  | here {a : α} {l : List α} (h : P a) : FirstWith P (a :: l) (some a)
  | later {a : α} {l : List α} {found : Option α} (h : ¬ P a) (rest : FirstWith P l found) :
      FirstWith P (a :: l) found

namespace FirstWith

variable {α : Type} {P : α → Prop}

theorem none_iff {l : List α} : FirstWith P l .none ↔ ∀ a ∈ l, ¬ P a := by
  induction l with
  | nil => simp [FirstWith.none]
  | cons a l ih =>
    rw [List.forall_mem_cons, ← ih]
    constructor
    · rintro (_ | _ | ⟨h, rest⟩)
      exact ⟨h, rest⟩
    · rintro ⟨h, rest⟩
      exact later h rest

theorem mem_and_holds {l : List α} {a : α} (h : FirstWith P l (some a)) : a ∈ l ∧ P a := by
  induction l with
  | nil => cases h
  | cons b l ih =>
    cases h with
    | here h => exact ⟨List.mem_cons_self, h⟩
    | later _ rest => exact ⟨List.mem_cons_of_mem b (ih rest).1, (ih rest).2⟩

theorem append_right {l : List α} {a : α} (h : FirstWith P l (some a)) (l' : List α) :
    FirstWith P (l ++ l') (some a) := by
  generalize hfound : some a = found at h
  induction h with
  | none => cases hfound
  | here h =>
    cases hfound
    exact here h
  | later h _ ih => exact later h (ih hfound)

theorem append_left {l l' : List α} {found : Option α} (hl : ∀ a ∈ l, ¬ P a)
    (h : FirstWith P l' found) : FirstWith P (l ++ l') found := by
  induction l with
  | nil => exact h
  | cons a l ih =>
    obtain ⟨ha, hl⟩ := List.forall_mem_cons.1 hl
    exact later ha (ih hl)

end FirstWith

/-! ## Checks -/

/-- A step that fails with the first of these codes that is deserved, or passes if none is. -/
inductive Checks {α : Type} (P : ErrorCode → Prop) (codes : List ErrorCode) :
    Except Failure α → Prop
  | fails (e : CompileError) (h : FirstWith P codes (some e.code)) : Checks P codes
      (.error (.compile e))
  | passes (a : α) (h : ∀ c ∈ codes, ¬ P c) : Checks P codes (.ok a)

namespace Checks

variable {α β : Type} {P : ErrorCode → Prop} {codes rest : List ErrorCode} {x : Except Failure α}

/-- A step that cannot fail checks nothing. -/
theorem of_exists (h : ∃ a, x = .ok a) : Checks P [] x := by
  obtain ⟨a, rfl⟩ := h
  exact passes a (by simp)

/-- What a check that fails says is so. -/
theorem error_or_ok (h : Checks P codes x) :
    (∃ e, x = .error (.compile e) ∧ e.code ∈ codes ∧ P e.code) ∨ ∃ a, x = .ok a := by
  cases h with
  | fails e h => exact .inl ⟨e, rfl, h.mem_and_holds⟩
  | passes a _ => exact .inr ⟨a, rfl⟩

theorem exists_ok (h : Checks P codes x) (hnone : ∀ c ∈ codes, ¬ P c) : ∃ a, x = .ok a := by
  cases h with
  | fails e h => exact absurd h.mem_and_holds.2 (hnone e.code h.mem_and_holds.1)
  | passes a _ => exact ⟨a, rfl⟩

/-- What comes after a check is reached only if none of the codes is deserved. -/
theorem bind {f : α → Except Failure β} (h : Checks P codes x)
    (hf : ∀ a, x = .ok a → FirstWith P rest (codeOf (f a))) :
    FirstWith P (codes ++ rest) (codeOf (x >>= f)) := by
  cases h with
  | fails e h => exact h.append_right rest
  | passes a h => exact .append_left h (hf a rfl)

end Checks

theorem codeOf_bind_pure {α β : Type} {x : Except Failure α} {f : α → β} :
    codeOf (x >>= fun a => pure (f a)) = codeOf x := by
  cases x with
  | error e => cases e <;> rfl
  | ok a => rfl

/-! ## Steps -/

/-- The registry vouches for all text of the definition that statements are made of. -/
structure Metric.Vouched (m : Metric) : Prop where
  expression : m.expression.trusted = true
  condition : ∀ t, m.condition = some t → t.trusted = true

/-- The registry vouches for all text of these definitions that statements are made of. -/
structure Verdict.Vouched (v : Verdict) : Prop where
  metrics : ∀ m ∈ v.metrics, m.Vouched
  dimensions : ∀ d ∈ v.dimensions, d.expression.trusted = true

theorem Verdict.Vouched.expressions {v : Verdict} (h : v.Vouched) :
    ¬ SomeUnmarked v.HasExpression := by
  rintro ⟨t, ⟨m, hm, rfl⟩ | ⟨d, hd, rfl⟩, ht⟩
  · exact absurd (h.metrics m hm).expression (by simp [ht])
  · exact absurd (h.dimensions d hd) (by simp [ht])

theorem Verdict.Vouched.conditions {v : Verdict} (h : v.Vouched) :
    ¬ SomeUnmarked v.HasCondition := by
  rintro ⟨t, ⟨-, m, hfirst, hm⟩, ht⟩
  have hmem : m ∈ v.metrics := List.mem_of_find?_eq_some hfirst
  exact absurd ((h.metrics m hmem).condition t hm) (by simp [ht])

theorem Selection.exists_ofDefinitions {v : Verdict} (h : v.Vouched) (primary : String) :
    ∃ s, ofDefinitions primary v.metrics v.dimensions = .ok s := by
  obtain ⟨-, hs⟩ | ⟨hunmarked, -⟩ := ofDefinitions_cases v primary
  · exact hs
  · exact absurd hunmarked h.expressions

namespace Condition

theorem isEmptyChoice_iff {c : Condition} : c.isEmptyChoice = true ↔ c = .oneOf [] := by
  cases c <;> simp [isEmptyChoice]

end Condition

namespace Restriction

theorem exists_ofMetrics {v : Verdict} (h : v.Vouched) :
    ∃ ps, ofMetrics v.metrics = .ok ps := by
  obtain ⟨-, hps⟩ | ⟨hunmarked, -⟩ := ofMetrics_cases v
  · exact hps
  · exact absurd hunmarked h.conditions

variable {registry : Registry} {settings : Settings} {r : Request}

theorem checks_span : Checks (r.FailsAt registry settings) [.invalidDateRange, .dateRangeTooLarge]
    (span settings r) := by
  unfold span
  cases hrange : r.plan.dateRange with
  | none =>
    refine .passes none fun code hcode hfails => ?_
    simp only [List.mem_cons, List.not_mem_nil, or_false] at hcode
    obtain rfl | rfl := hcode <;>
    · obtain ⟨range, hsome, -⟩ := hfails
      cases hrange.symm.trans hsome
  | some range =>
    have hinvalid : (∃ s : Span, s.WrittenAs range.start range.finish) →
        ¬ r.FailsAt registry settings .invalidDateRange := by
      rintro ⟨s, hs⟩ ⟨range', hsome, hnone⟩
      obtain rfl := Option.some.inj (hrange.symm.trans hsome)
      exact hnone s hs
    dsimp only
    obtain ⟨s, hs, hshort, hcheck⟩ | ⟨s, hs, hlong, hcheck⟩ | ⟨hnone, fault, hcode, hcheck⟩ :=
      Span.check_cases range.start range.finish (r.maxDays.getD settings.maxDays)
    · rw [hcheck]
      refine .passes (some s) (List.forall_mem_cons.2
        ⟨hinvalid ⟨s, hs⟩, List.forall_mem_singleton.2 ?_⟩)
      rintro ⟨range', hsome, s', hs', hlong⟩
      obtain rfl := Option.some.inj (hrange.symm.trans hsome)
      obtain rfl := hs.eq hs'
      omega
    · rw [hcheck]
      exact .fails _ (.later (hinvalid ⟨s, hs⟩) (.here ⟨range, hrange, s, hs, hlong⟩))
    · rw [hcheck]
      refine .fails _ ?_
      rw [CompileError.code, hcode]
      exact .here ⟨range, hrange, hnone⟩

theorem checks_checkChoices : Checks (r.FailsAt registry settings) [.filterEmptyValues]
    (checkChoices r.plan.filters) := by
  unfold checkChoices
  cases hfind : r.plan.filters.find? fun f => f.condition.isEmptyChoice with
  | none =>
    refine .passes () (List.forall_mem_singleton.2 ?_)
    rintro ⟨f, hf, hempty⟩
    exact List.find?_eq_none.1 hfind f hf (Condition.isEmptyChoice_iff.2 hempty)
  | some f =>
    have hempty : f.condition.isEmptyChoice = true := by simpa using List.find?_some hfind
    exact .fails _ (.here ⟨f, List.mem_of_find?_eq_some hfind,
      Condition.isEmptyChoice_iff.1 hempty⟩)

theorem codeOf_ofFilters (selection : Selection) (filters : List Filter) :
    codeOf (ofFilters selection filters) = none := by
  cases h : ofFilters selection filters with
  | ok ps => rfl
  | error x => obtain rfl | rfl := failure_of_ofFilters h <;> rfl

end Restriction

theorem checks_resolve {registry : Registry} {settings : Settings} {r : Request} {v : Verdict}
    (hanswer : (registry.consult r.plan r.lens).answer = .ok v) :
    Checks (r.FailsAt registry settings) [.planValidationError]
      (registry.consult r.plan r.lens).resolve := by
  unfold Consultation.resolve
  rw [hanswer]
  dsimp only
  split
  · next hvalid =>
    split
    · next hempty => exact .fails _ (.here ⟨v, hanswer, .inr hempty⟩)
    · next first rest hmetrics =>
      refine .passes (first, v) (List.forall_mem_singleton.2 ?_)
      rintro ⟨v', hanswer', hfails⟩
      obtain rfl := Except.ok.inj (hanswer.symm.trans hanswer')
      simp [hvalid, hmetrics] at hfails
  · next hvalid => exact .fails _ (.here ⟨v, hanswer, .inl (by simpa using hvalid)⟩)

/-! ## Runs -/

section Runs

variable {registry : Registry} {settings : Settings} {r : Request} {v : Verdict}

/-- A query is built from definitions that are vouched for, or the first code is deserved. -/
theorem firstWith_build (h : v.Vouched) (primary : String) :
    FirstWith (r.FailsAt registry settings)
      [.invalidDateRange, .dateRangeTooLarge, .filterEmptyValues]
      (codeOf (Query.build settings r primary v.metrics v.dimensions)) := by
  refine Checks.bind (.of_exists (Selection.exists_ofDefinitions h primary)) fun selection _ => ?_
  rw [codeOf_bind_pure]
  refine Checks.bind Restriction.checks_span fun span _ => ?_
  refine Checks.bind (.of_exists (Restriction.exists_ofMetrics h)) fun ofMetrics _ => ?_
  show FirstWith _ ([ErrorCode.filterEmptyValues] ++ []) _
  refine Checks.bind Restriction.checks_checkChoices fun _ _ => ?_
  rw [codeOf_bind_pure, Restriction.codeOf_ofFilters]
  exact .none

/-- A compilation looks at the answer of the registry, at whether there are metrics in the plan, and
at what a query is built from. -/
theorem outcome_congr {registry' : Registry} {r' : Request}
    (hmetrics : r.plan.metrics = [] ↔ r'.plan.metrics = [])
    (hanswer : (registry.consult r.plan r.lens).answer =
      (registry'.consult r'.plan r'.lens).answer)
    (hbuild : Query.build settings r = Query.build settings r') :
    (compile registry settings r).outcome = (compile registry' settings r').outcome := by
  by_cases hempty : r.plan.metrics = []
  · rw [compile_of_noMetrics hempty, compile_of_noMetrics (hmetrics.1 hempty)]
  · have hresolve : (registry.consult r.plan r.lens).resolve =
        (registry'.consult r'.plan r'.lens).resolve := by
      unfold Consultation.resolve
      rw [hanswer]
    rw [outcome_compile hempty, outcome_compile (mt hmetrics.2 hempty), hresolve, hbuild]

theorem firstWith_compile (hmetrics : r.plan.metrics ≠ [])
    (hanswer : (registry.consult r.plan r.lens).answer = .ok v) (hvouched : v.Vouched) :
    FirstWith (r.FailsAt registry settings) ErrorCode.precedence
      (compile registry settings r).code? := by
  refine .later id (.later hmetrics ?_)
  rw [Report.code?, outcome_compile hmetrics]
  refine Checks.bind (checks_resolve hanswer) fun m hm => ?_
  obtain rfl := Except.ok.inj (hanswer.symm.trans (Consultation.resolve_eq_ok.1 hm).1)
  exact firstWith_build hvouched m.1.table.text

/-- No code is deserved before the first one that the report has. -/
theorem Submission.firstWith_report {s : Submission}
    (hok : ∀ r, s.Asks r → ∃ v, (registry.consult r.plan r.lens).answer = .ok v ∧ v.Vouched) :
    FirstWith (s.FailsAt registry settings) ErrorCode.precedence
      (s.report registry settings).code? := by
  cases hread : s.read with
  | rejected issues =>
    rw [report_of_rejected hread]
    exact .here (failsAt_of_rejected hread)
  | accepted r =>
    rw [failsAt_of_accepted hread, report_of_accepted hread]
    by_cases hmetrics : r.plan.metrics = []
    · rw [compile_of_noMetrics hmetrics]
      exact .later id (.here hmetrics)
    · obtain ⟨v, hanswer, hvouched⟩ := hok r ⟨hread, hmetrics⟩
      exact firstWith_compile hmetrics hanswer hvouched

/-- Where the registry is asked, it is asked first of all. -/
theorem Submission.Asks.report_eq {s : Submission} (h : s.Asks r) :
    (s.report registry settings).consulted = [r.lens] ∧
      (s.report registry settings).outcome = (registry.consult r.plan r.lens).resolve >>=
        fun m => Query.build settings r m.1.table.text m.2.metrics m.2.dimensions := by
  rw [report_of_accepted h.1]
  exact ⟨consulted_compile h.2, outcome_compile h.2⟩

theorem Submission.consulted_of_not_asks {s : Submission} (h : ∀ r, ¬ s.Asks r) :
    (s.report registry settings).consulted = [] := by
  cases hread : s.read with
  | rejected issues => rw [report_of_rejected hread]
  | accepted r =>
    have hmetrics : r.plan.metrics = [] := not_not.1 fun hne => h r ⟨hread, hne⟩
    rw [report_of_accepted hread, compile_of_noMetrics hmetrics]

end Runs

/-! ## Settled submissions -/

/-- A report that settles a submission as the order of the checks has it. -/
structure Submission.Settled (registry : Registry) (settings : Settings) (s : Submission)
    (report : Report) : Prop where
  asked : ∀ r, s.Asks r → report.consulted = [r.lens]
  unasked : (∀ r, ¬ s.Asks r) → report.consulted = []
  /-- A registry that fails has the last word. -/
  failed : ∀ r text, s.Asks r → (registry.consult r.plan r.lens).answer = .error text →
    report.outcome = .error (.registry text)
  code : (∀ r, s.Asks r → ∃ v, (registry.consult r.plan r.lens).answer = .ok v) →
    FirstWith (s.FailsAt registry settings) ErrorCode.precedence report.code?

/-- **The first error wins.** If the registry vouches for what it resolves, then a submission is
turned down with the first code it deserves, and only if it deserves one. -/
theorem settled {registry : Registry} {settings : Settings} {s : Submission}
    (hvouched : ∀ r v, s.Asks r → (registry.consult r.plan r.lens).answer = .ok v → v.Vouched) :
    s.Settled registry settings (s.report registry settings) where
  asked _ hr := hr.report_eq.1
  unasked := Submission.consulted_of_not_asks
  failed r text hr htext := by
    rw [hr.report_eq.2, Consultation.resolve, htext]
    rfl
  code hok := by
    refine Submission.firstWith_report fun r hr => ?_
    obtain ⟨v, hanswer⟩ := hok r hr
    exact ⟨v, hanswer, hvouched r v hr hanswer⟩

/-- A request whose dates are in the wrong order, and with a filter that allows nothing. -/
def hastyRequest : Request :=
  { sampleRequest with
    plan :=
      { sampleRequest.plan with
        filters := [⟨"colour", .oneOf []⟩]
        dateRange := some ⟨"2024-03-01", "2024-02-28"⟩ } }

theorem vouched_sampleVerdict : sampleVerdict.Vouched where
  metrics := by
    have hall : ∀ m ∈ sampleVerdict.metrics, m.expression.trusted = true ∧
        ∀ t ∈ m.condition, t.trusted = true := by decide
    exact fun m hm => ⟨(hall m hm).1, (hall m hm).2⟩
  dimensions := by decide

theorem settled_hasty :
    (Submission.request hastyRequest).Settled (.constant (.ok sampleVerdict)) {}
        ((Submission.request hastyRequest).report (.constant (.ok sampleVerdict)) {}) ∧
      ((Submission.request hastyRequest).report (.constant (.ok sampleVerdict)) {}).code? =
        some .invalidDateRange := by
  refine ⟨settled fun r v _ hanswer => ?_, by decide +kernel⟩
  obtain rfl := Except.ok.inj hanswer
  exact vouched_sampleVerdict

end MetricQuery
