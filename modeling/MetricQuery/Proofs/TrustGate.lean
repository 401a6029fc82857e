import MetricQuery.Proofs.Precedence
import MetricQuery.Proofs.Supplied

/-!
# Trust in the text of a query

A registry marks the text that it vouches for. The compiler looks at the mark of each text before
the text is put into a statement, at expressions first and at conditions of metrics after the dates.

**Theorem (`gated`).** A submission gives a query only if all texts supplied to it are marked, and
then the query takes in nothing else as it stands. If one of them is not marked, the submission
fails for that reason, unless something that is looked at before is wrong: the submission itself,
the verdict, and for conditions of metrics the range of dates.

Not all that a metric holds is looked at. A condition without text is left out, and so is one whose
text another metric has before it: whether these are marked makes no difference (`firstCarrying`).
-/

namespace MetricQuery

open Sql

/-! ## Steps that look at no marks -/

namespace Restriction

theorem checkChoices_ne (filters : List Filter) :
    checkChoices filters ≠ .error .untrustedSql := by
  unfold checkChoices
  split <;> simp

theorem ofFilters_ne (selection : Selection) (filters : List Filter) :
    ofFilters selection filters ≠ .error .untrustedSql := by
  intro h
  simpa using failure_of_ofFilters h

end Restriction

/-! ## Queries from a verdict -/

/-- The range of dates is turned down, as it should be. -/
def Request.Misdated {α : Type} (registry : Registry) (settings : Settings) (r : Request)
    (outcome : Except Failure α) : Prop :=
  ∃ e, outcome = .error (.compile e) ∧ e.code ∈ [.invalidDateRange, .dateRangeTooLarge] ∧
    r.FailsAt registry settings e.code

section Build

variable (registry : Registry) (settings : Settings) (r : Request) (v : Verdict)

/-- Conditions are stated or not as first the dates have it, then the marks. -/
theorem marks_of_all (selection : Selection) :
    r.Misdated registry settings (Restriction.all settings r v.metrics selection) ∨
      SomeUnmarked v.HasCondition ∧
        Restriction.all settings r v.metrics selection = .error .untrustedSql ∨
      ¬ SomeUnmarked v.HasCondition ∧
        Restriction.all settings r v.metrics selection ≠ .error .untrustedSql := by
  have hcheck : Checks (r.FailsAt registry settings) _ (Restriction.span settings r) :=
    Restriction.checks_span
  obtain ⟨e, hspan, he⟩ | ⟨days, hspan⟩ := hcheck.error_or_ok
  · refine .inl ⟨e, ?_, he⟩
    simp only [Restriction.all, hspan, bind, Except.bind]
  · obtain ⟨hmarked, ofM, hofM⟩ | ⟨hunmarked, hofM⟩ := Restriction.ofMetrics_cases v
    · refine .inr (.inr ⟨hmarked, ?_⟩)
      have hchoices := Restriction.checkChoices_ne r.plan.filters
      have hfilters := Restriction.ofFilters_ne selection r.plan.filters
      simp only [Restriction.all, hspan, hofM, bind, Except.bind]
      -- What is left to fail looks at no marks.
      cases hc : Restriction.checkChoices r.plan.filters with
      | error f => simpa [hc] using hchoices
      | ok _ =>
        cases hf : Restriction.ofFilters selection r.plan.filters with
        | error f => simpa [hf] using hfilters
        | ok ps => simp [pure, Except.pure]
    · refine .inr (.inl ⟨hunmarked, ?_⟩)
      simp only [Restriction.all, hspan, hofM, bind, Except.bind]

/-- A query is built or not as first the marks of expressions have it, then the dates, and then the
marks of conditions. -/
theorem marks_of_build (primary : String) :
    (SomeUnmarked v.HasExpression ∧
        Query.build settings r primary v.metrics v.dimensions = .error .untrustedSql) ∨
      ¬ SomeUnmarked v.HasExpression ∧
        (r.Misdated registry settings
            (Query.build settings r primary v.metrics v.dimensions) ∨
          SomeUnmarked v.HasCondition ∧
            Query.build settings r primary v.metrics v.dimensions = .error .untrustedSql ∨
          ¬ SomeUnmarked v.HasCondition ∧
            Query.build settings r primary v.metrics v.dimensions ≠ .error .untrustedSql) := by
  obtain ⟨hmarked, selection, hselection⟩ | ⟨hunmarked, herror⟩ :=
    Selection.ofDefinitions_cases v primary
  · refine .inr ⟨hmarked, ?_⟩
    simp only [Query.build, hselection, bind, Except.bind]
    obtain ⟨e, hall, he⟩ | ⟨hunmarked, hall⟩ | ⟨hconditions, hall⟩ :=
      marks_of_all registry settings r v selection
    · exact .inl ⟨e, by rw [hall], he⟩
    · exact .inr (.inl ⟨hunmarked, by rw [hall]⟩)
    · refine .inr (.inr ⟨hconditions, ?_⟩)
      cases hps : Restriction.all settings r v.metrics selection with
      | error f => simpa [hps] using hall
      | ok ps => simp [pure, Except.pure]
  · refine .inl ⟨hunmarked, ?_⟩
    simp only [Query.build, herror, bind, Except.bind]

end Build

/-! ## Outcomes -/

/-- The registry lets the plan pass and has a metric for it. -/
structure Verdict.Usable (v : Verdict) : Prop where
  valid : v.valid = true
  metrics : v.metrics ≠ []

/-- A query that takes in marked texts and nothing else of a registry, but for names. -/
structure Query.Marked (settings : Settings) (r : Request) (v : Verdict) (q : Query) : Prop where
  expressions : ∀ t, v.HasExpression t → t.trusted = true
  conditions : ∀ t, v.HasCondition t → t.trusted = true
  /-- What stands in the template as it is, the verdict supplies. -/
  template : q.WrittenFrom (queryNames settings r v) v.Supplies
  text : q.sql.toList = fill (Piece.names {} q.statement.pieces) 0
    (Piece.template {} q.statement.pieces)

/-- An outcome that the marks in a verdict decide, as far as nothing before them does. -/
structure Verdict.Gates (registry : Registry) (settings : Settings) (r : Request) (v : Verdict)
    (outcome : Except Failure Query) : Prop where
  query : ∀ q, outcome = .ok q → q.Marked settings r v
  unusable : ¬ v.Usable → ∃ e, outcome = .error (.compile e) ∧ e.code = .planValidationError
  expression : v.Usable → SomeUnmarked v.HasExpression → outcome = .error .untrustedSql
  condition : v.Usable → SomeUnmarked v.HasCondition →
    outcome = .error .untrustedSql ∨ r.Misdated registry settings outcome
  /-- Nothing else fails for want of a mark. -/
  only : outcome = .error .untrustedSql → v.Usable ∧ SomeUnmarked v.Supplies

/-- An outcome that is decided by the marks of the verdict, if there is one. -/
structure Submission.Gated (registry : Registry) (settings : Settings) (s : Submission)
    (outcome : Except Failure Query) : Prop where
  asked : ∀ r v, s.Asks r → (registry.consult r.plan r.lens).answer = .ok v →
    v.Gates registry settings r outcome
  unasked : (∀ r, ¬ s.Asks r) →
    ∃ e, outcome = .error (.compile e) ∧ e.code ∈ [.invalidPlan, .noMetrics]
  /-- No query is made without asking. -/
  made : ∀ q, outcome = .ok q →
    ∃ r v, s.Asks r ∧ (registry.consult r.plan r.lens).answer = .ok v

section Gates

variable {registry : Registry} {settings : Settings} {r : Request} {v : Verdict}

theorem marked_of_not_someUnmarked {P : SqlText → Prop} (h : ¬ SomeUnmarked P) (t : SqlText)
    (ht : P t) : t.trusted = true := by
  cases htrusted : t.trusted with
  | true => rfl
  | false => exact absurd ⟨t, ht, htrusted⟩ h

theorem Compilation.build_eq {q : Query} (c : Compilation registry settings r q) :
    Query.build settings r c.first.table.text c.verdict.metrics c.verdict.dimensions = .ok q :=
  bind_eq_ok.2 ⟨_, c.selected, bind_eq_ok.2 ⟨_, c.restricted, congrArg Except.ok c.made.symm⟩⟩

theorem Compilation.marked {q : Query} (c : Compilation registry settings r q) :
    q.Marked settings r c.verdict := by
  have hmarks := marks_of_build registry settings r c.verdict c.first.table.text
  rw [c.build_eq] at hmarks
  obtain ⟨-, herror⟩ | ⟨hexpressions, ⟨e, herror, -⟩ | ⟨-, herror⟩ | ⟨hconditions, -⟩⟩ := hmarks
  · cases herror
  · cases herror
  · cases herror
  · exact {
      expressions := marked_of_not_someUnmarked hexpressions
      conditions := marked_of_not_someUnmarked hconditions
      template := c.writtenFrom
      text := String.toList_ofList }

theorem outcome_of_usable (h : v.Usable) (hmetrics : r.plan.metrics ≠ [])
    (hanswer : (registry.consult r.plan r.lens).answer = .ok v) :
    ∃ primary, (compile registry settings r).outcome =
      Query.build settings r primary v.metrics v.dimensions := by
  obtain ⟨first, rest, hfirst⟩ := List.exists_cons_of_ne_nil h.metrics
  have hresolve := Consultation.resolve_eq_ok.2 ⟨hanswer, h.valid, by rw [hfirst]; rfl⟩
  exact ⟨first.table.text, by rw [outcome_compile hmetrics, hresolve]; rfl⟩

theorem outcome_of_not_usable (h : ¬ v.Usable) (hmetrics : r.plan.metrics ≠ [])
    (hanswer : (registry.consult r.plan r.lens).answer = .ok v) :
    ∃ e, (compile registry settings r).outcome = .error (.compile e) ∧
      e.code = .planValidationError := by
  have hcheck : Checks (r.FailsAt registry settings) _ _ := checks_resolve hanswer
  obtain ⟨e, herror, hcode, -⟩ | ⟨m, hm⟩ := hcheck.error_or_ok
  · exact ⟨e, by rw [outcome_compile hmetrics, herror]; rfl, List.mem_singleton.1 hcode⟩
  · obtain ⟨hanswer', hvalid, hfirst⟩ := Consultation.resolve_eq_ok.1 hm
    obtain rfl : m.2 = v := Except.ok.inj (hanswer'.symm.trans hanswer)
    exact absurd ⟨hvalid, List.ne_nil_of_mem (List.mem_of_head? hfirst)⟩ h

theorem gates_of_asked (hmetrics : r.plan.metrics ≠ [])
    (hanswer : (registry.consult r.plan r.lens).answer = .ok v) :
    v.Gates registry settings r (compile registry settings r).outcome where
  query q hq := by
    obtain ⟨c⟩ := exists_compilation hq
    exact c.verdict_eq hanswer ▸ c.marked
  unusable h := outcome_of_not_usable h hmetrics hanswer
  expression h hunmarked := by
    obtain ⟨primary, houtcome⟩ := outcome_of_usable h hmetrics hanswer
    obtain ⟨-, herror⟩ | ⟨hmarked, -⟩ := marks_of_build registry settings r v primary
    · exact houtcome.trans herror
    · exact absurd hunmarked hmarked
  condition h hunmarked := by
    obtain ⟨primary, houtcome⟩ := outcome_of_usable h hmetrics hanswer
    rw [houtcome]
    obtain ⟨-, herror⟩ | ⟨-, hdates | ⟨-, herror⟩ | ⟨hmarked, -⟩⟩ :=
      marks_of_build registry settings r v primary
    · exact .inl herror
    · exact .inr hdates
    · exact .inl herror
    · exact absurd hunmarked hmarked
  only h := by
    by_cases husable : v.Usable
    · obtain ⟨primary, houtcome⟩ := outcome_of_usable husable hmetrics hanswer
      have hmarks := marks_of_build registry settings r v primary
      rw [← houtcome, h] at hmarks
      obtain ⟨⟨t, ht, hunmarked⟩, -⟩ | ⟨-, ⟨e, herror, -⟩ | ⟨⟨t, ht, hunmarked⟩, -⟩ | ⟨-, hne⟩⟩ :=
        hmarks
      · exact ⟨husable, t, .inl ht, hunmarked⟩
      · cases herror
      · exact ⟨husable, t, .inr ht, hunmarked⟩
      · exact absurd rfl hne
    · obtain ⟨e, herror, -⟩ := outcome_of_not_usable husable hmetrics hanswer
      cases herror.symm.trans h

end Gates

/-- **Only marked text.** A query takes in marked texts alone, and a text without a mark gives none:
nothing but the submission, the verdict and, for conditions, the dates can be found wrong first. -/
theorem gated (registry : Registry) (settings : Settings) (s : Submission) :
    s.Gated registry settings (s.report registry settings).outcome where
  asked r v hr hanswer := by
    rw [Submission.report_of_accepted hr.1]
    exact gates_of_asked hr.2 hanswer
  unasked h := by
    cases hread : s.read with
    | rejected issues =>
      rw [Submission.report_of_rejected hread]
      exact ⟨_, rfl, by simp [CompileError.code]⟩
    | accepted r =>
      have hmetrics : r.plan.metrics = [] := not_not.1 fun hne => h r ⟨hread, hne⟩
      rw [Submission.report_of_accepted hread, compile_of_noMetrics hmetrics]
      exact ⟨_, rfl, by simp [CompileError.code]⟩
  made q hq := by
    cases hread : s.read with
    | rejected issues => simp [Submission.report_of_rejected hread] at hq
    | accepted r =>
      rw [Submission.report_of_accepted hread] at hq
      have hmetrics : r.plan.metrics ≠ [] := fun hempty => by
        simp [compile_of_noMetrics hempty] at hq
      obtain ⟨c⟩ := exists_compilation hq
      exact ⟨r, c.verdict, ⟨hread, hmetrics⟩, c.answer⟩

/-- The sample with a condition that lacks the mark, on a metric after another with that text. -/
def coveredVerdict : Verdict :=
  { sampleVerdict with
    metrics := sampleVerdict.metrics.map fun m =>
      if m.slug = "orders" then
        { m with condition := m.condition.map fun t => { t with trusted := false } }
      else m }

/-- The mark that is missing is not looked at. -/
example : (compile (.constant (.ok coveredVerdict)) {} sampleRequest).outcome.isOk = true := by
  decide +kernel

end MetricQuery
