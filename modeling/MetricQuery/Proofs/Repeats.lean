import MetricQuery.Proofs.Acceptance
import MetricQuery.Proofs.Precedence

/-!
# Slugs given more than once

A plan may select a metric or a dimension more than once. That comes to the same as selecting it
once, in the place where it is first.

**Theorem (`same_of_distinct_eq`).** Two submissions that are the same but for repeats in what they
select have the same outcome with every catalog. Through every lens the catalog has the same verdict
on them: the same errors, each as often and in the same order, and the same definitions.

The rules of a catalog deal with repeats each in its own way: some drop them, some look at the
definitions resolved, and some only ask whether a slug is among those of the plan. So the proof goes
rule by rule, and compares a plan with itself without repeats (`Plan.distinct`).
-/

namespace MetricQuery

/-! ## Plans without repeats -/

/-- A plan that selects the same, each slug once. -/
def Plan.distinct (p : Plan) : Plan :=
  { p with metrics := p.metrics.eraseDups, dimensions := p.dimensions.eraseDups }

def Request.distinct (r : Request) : Request := { r with plan := r.plan.distinct }

theorem eraseDups_of_nodup {l : List String} (h : l.Nodup) : l.eraseDups = l := by
  induction l with
  | nil => rfl
  | cons a l ih =>
    obtain ⟨ha, hl⟩ := List.nodup_cons.1 h
    have hrest : l.filter (fun b => !b == a) = l := by
      rw [List.filter_eq_self]
      intro b hb
      simpa using fun heq : b = a => ha (heq ▸ hb)
    rw [List.eraseDups_cons, hrest, ih hl]

theorem eraseDups_eraseDups (l : List String) : l.eraseDups.eraseDups = l.eraseDups :=
  eraseDups_of_nodup (nodup_eraseDups l)

theorem contains_eraseDups (l : List String) (s : String) :
    l.eraseDups.contains s = l.contains s := by
  rw [Bool.eq_iff_iff, List.contains_iff_mem, List.contains_iff_mem, List.mem_eraseDups]

namespace Catalog

variable (c : Catalog) (p : Plan)

/-! ## Rules -/

theorem selectedMetrics_distinct : c.selectedMetrics p.distinct = c.selectedMetrics p := by
  simp only [selectedMetrics, Plan.distinct, eraseDups_eraseDups]

theorem selectedDimensions_distinct : c.selectedDimensions p.distinct = c.selectedDimensions p := by
  simp only [selectedDimensions, Plan.distinct, eraseDups_eraseDups]

theorem lensObjections_distinct : c.lensObjections p.distinct = c.lensObjections p := by
  funext slug
  simp only [lensObjections, Plan.distinct, eraseDups_eraseDups]

theorem filterObjection_distinct : c.filterObjection p.distinct = c.filterObjection p := by
  funext f
  simp only [filterObjection, Plan.distinct, contains_eraseDups]

theorem sortObjection_distinct : sortObjection p.distinct = sortObjection p := by
  funext k
  simp only [sortObjection, Plan.distinct, contains_eraseDups]

theorem objections_distinct (lens : Option String) :
    c.objections p.distinct lens = c.objections p lens := by
  have hmetrics : p.distinct.metrics.eraseDups = p.metrics.eraseDups := eraseDups_eraseDups _
  have hdimensions : p.distinct.dimensions.eraseDups = p.dimensions.eraseDups :=
    eraseDups_eraseDups _
  unfold objections
  rw [hmetrics, hdimensions, selectedMetrics_distinct, selectedDimensions_distinct,
    lensObjections_distinct, filterObjection_distinct, sortObjection_distinct]
  rfl

theorem verdict_distinct (lens : Option String) : c.verdict p.distinct lens = c.verdict p lens := by
  unfold verdict
  rw [objections_distinct, selectedMetrics_distinct, selectedDimensions_distinct]

end Catalog

/-! ## Outcomes -/

theorem outcome_distinct (c : Catalog) (settings : Settings) (r : Request) :
    (compile c.registry settings r.distinct).outcome = (compile c.registry settings r).outcome := by
  have hempty : r.distinct.plan.metrics = [] ↔ r.plan.metrics = [] := eraseDupsBy_eq_nil_iff
  have hanswer : (c.registry.consult r.distinct.plan r.distinct.lens).answer =
      (c.registry.consult r.plan r.lens).answer :=
    congrArg Except.ok (c.verdict_distinct r.plan r.lens)
  -- A query is built from what was resolved, not from the slugs of the plan.
  exact outcome_congr hempty hanswer rfl

/-- **Repeats make no difference.** -/
theorem same_of_distinct_eq (c : Catalog) (settings : Settings) {s s' : Submission}
    {r r' : Request} (hread : s.read = .accepted r) (hread' : s'.read = .accepted r')
    (hsame : r.distinct = r'.distinct) :
    (∀ lens, (c.registry.consult r.plan lens).answer = (c.registry.consult r'.plan lens).answer) ∧
      (s.report c.registry settings).outcome = (s'.report c.registry settings).outcome := by
  have hplans : r.plan.distinct = r'.plan.distinct := congrArg Request.plan hsame
  constructor
  · intro lens
    show Except.ok (c.verdict r.plan lens) = Except.ok (c.verdict r'.plan lens)
    rw [← c.verdict_distinct r.plan, hplans, c.verdict_distinct r'.plan]
  · rw [Submission.report_of_accepted hread, Submission.report_of_accepted hread',
      ← outcome_distinct c settings r, hsame, outcome_distinct c settings r']

/-- The sample with slugs given again, before and after other slugs. -/
def repeatingRequest : Request :=
  { sampleRequest with
    plan :=
      { sampleRequest.plan with
        metrics := ["sales", "sales", "orders", "sales"]
        dimensions := ["day", "region", "day", "region"] } }

def sampleCatalog : Catalog := .ofLists sampleVerdict.metrics sampleVerdict.dimensions []

theorem same_repeatingRequest :
    repeatingRequest.distinct = sampleRequest.distinct ∧
      (∀ lens, (sampleCatalog.registry.consult repeatingRequest.plan lens).answer =
          (sampleCatalog.registry.consult sampleRequest.plan lens).answer) ∧
        (compile sampleCatalog.registry {} repeatingRequest).outcome =
          (compile sampleCatalog.registry {} sampleRequest).outcome ∧
        (compile sampleCatalog.registry {} repeatingRequest).outcome.isOk = true := by
  have hread : ∀ r, (Submission.request r).read = .accepted r := fun _ => rfl
  have hsame : repeatingRequest.distinct = sampleRequest.distinct := rfl
  obtain ⟨hanswer, houtcome⟩ := same_of_distinct_eq sampleCatalog {} (hread repeatingRequest)
    (hread sampleRequest) hsame
  exact ⟨hsame, hanswer, houtcome, by decide +kernel⟩

end MetricQuery
