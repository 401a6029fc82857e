import MetricQuery.Proofs.QuerySources
import MetricQuery.Proofs.Scanning
import MetricQuery.Proofs.Segments

/-!
# The tenant's predicate and the rest of the condition

The tenant's predicate comes first in every condition, with `AND` after it. That restricts the rows
only if no `OR` stands beside it: `OR` binds more weakly than `AND`.

**Theorem (`exists_tenantFirst`).** Let every fragment of the registry be closed. Then an `OR`
stands in the condition outside of quotes and brackets exactly if one stands in the expression of a
dimension that the condition is about, or a column it is about is named `or` and a line break.

Conditions of metrics are written between brackets, so an `OR` of theirs stays inside. Expressions
of dimensions are not, and an `OR` of theirs parts the condition in two: rows that meet the second
part count whichever tenant's they are (`not_always_governed`).
-/

namespace MetricQuery

open Sql

/-! ## What a condition is about -/

/-- The fragments that a registry resolved for the values of columns and for conditions. -/
def Verdict.fragments (v : Verdict) : List String :=
  v.metrics.flatMap (fun m => m.expression.text :: (m.condition.map SqlText.text).toList) ++
    v.dimensions.map fun d => d.expression.text

/-- The columns that a condition is about by name. -/
def conditionColumns (settings : Settings) (request : Request) (primary : String)
    (verdict : Verdict) : List String :=
  settings.tenantColumn :: (request.location.toList.map fun _ => settings.locationColumn) ++
    if request.plan.dateRange.isSome && (timeDimension? primary verdict.dimensions).isNone then
      [settings.timeColumn]
    else []

/-- The expressions that a condition is about. -/
def conditionExpressions (request : Request) (primary : String) (verdict : Verdict) :
    List String :=
  (if request.plan.dateRange.isSome then
      (timeDimension? primary verdict.dimensions).toList.map fun d => d.expression.text
    else []) ++
    (retained verdict.dimensions request.plan.filters).map fun k => k.2.expression.text

/-- Nothing that a condition is about holds an `OR` outside of quotes and brackets. -/
def OrFree (settings : Settings) (request : Request) (primary : String) (verdict : Verdict) :
    Prop :=
  (∀ name ∈ conditionColumns settings request primary verdict, name ≠ "or\n") ∧
    ∀ e ∈ conditionExpressions request primary verdict, ¬ HasOr e.toList

/-- A predicate is about something that holds an `OR` outside of quotes and brackets. -/
def Sql.Predicate.Exposes (p : Predicate) : Prop := ∃ s, p.subject? = some s ∧ HasOr s.text.toList

theorem exposes_iff {p : Predicate} {s : Subject} (h : p.subject? = some s) :
    p.Exposes ↔ HasOr s.text.toList := by
  simp [Predicate.Exposes, h]

/-! ## Predicates in a condition -/

/-- Whether a written predicate is closed and has an `OR` does not depend on its numbers, nor on
the other predicates. -/
theorem hasOr_parts {ps : List Predicate}
    (h : ∀ p ∈ ps, ∀ before, IsClosed (Piece.numbered before p.pieces) ∧
      (HasOr (Piece.numbered before p.pieces) ↔ p.Exposes)) (before : Nat) :
    (∀ t ∈ (Piece.parts before (ps.map Predicate.pieces)).map Part.text, IsClosed t) ∧
      ((∃ t ∈ (Piece.parts before (ps.map Predicate.pieces)).map Part.text, HasOr t) ↔
        ∃ p ∈ ps, p.Exposes) := by
  induction ps generalizing before with
  | nil => simp [Piece.parts]
  | cons p ps ih =>
    obtain ⟨hp, hps⟩ := List.forall_mem_cons.1 h
    obtain ⟨hclosed, hor⟩ := ih hps (before + (Piece.values p.pieces).length)
    simp only [List.map_cons, Piece.parts]
    constructor
    · exact List.forall_mem_cons.2 ⟨(hp before).1, hclosed⟩
    · rw [List.exists_mem_cons_iff, List.exists_mem_cons_iff, (hp before).2, hor]

section Restricted

variable {settings : Settings} {request : Request} {primary : String} {verdict : Verdict}
  {conditions : List Predicate}

/-- Every predicate of a condition is closed, if the fragments are. -/
theorem Restricted.closed (r : Restricted settings request primary verdict conditions)
    (hfragments : ∀ t ∈ verdict.fragments, IsClosed t.toList) {p : Predicate}
    (hp : p ∈ conditions) (before : Nat) :
    IsClosed (Piece.numbered before p.pieces) ∧
      (HasOr (Piece.numbered before p.pieces) ↔ p.Exposes) := by
  cases r.origin hp with
  | column name _ h =>
    rw [exposes_iff h]
    exact closed_of_subject? h (closed_identifier name).1 before
  | dimension f d hd hf h =>
    have hclosed : IsClosed f.text.toList := by
      rw [hf]
      apply hfragments
      exact List.mem_append_right _ (List.mem_map_of_mem hd)
    rw [exposes_iff h]
    exact closed_of_subject? h hclosed before
  | metric f m hm hf h =>
    have hclosed : IsClosed f.text.toList := by
      apply hfragments
      exact List.mem_append_left _ (List.mem_flatMap.2 ⟨m, hm, by simp [hf]⟩)
    obtain ⟨hwhole, hor⟩ := closed_fragment hclosed before
    rw [h]
    exact ⟨hwhole, iff_of_false hor (by simp [Predicate.Exposes, Predicate.subject?])⟩

/-- What the predicates expose are the columns and expressions that they are about. -/
theorem Restricted.exists_exposes (r : Restricted settings request primary verdict conditions) :
    (∃ p ∈ conditions, p.Exposes) ↔
      (∃ name ∈ conditionColumns settings request primary verdict, name = "or\n") ∨
        ∃ e ∈ conditionExpressions request primary verdict, HasOr e.toList := by
  have hcolumn : ∀ column v, (Predicate.compare (.column column) .equal v).Exposes ↔
      column = "or\n" := by
    intro column v
    rw [exposes_iff rfl]
    exact (closed_identifier column).2
  have hfragment : ∀ f : Fragment, ¬ (Predicate.fragment f).Exposes := by
    intro f
    simp [Predicate.Exposes, Predicate.subject?]
  have hfilters : (∃ p ∈ r.filters, p.Exposes) ↔
      ∃ k ∈ retained verdict.dimensions request.plan.filters,
        HasOr k.2.expression.text.toList := by
    refine (exists_iff_of_forall₂ (fun k p hp => ?_) r.kept).symm
    obtain ⟨f, hf, hp⟩ := hp
    rw [exposes_iff (subject?_predicate hp), Subject.text, Fragment.text, hf]
  have htime : ∀ low high, (Predicate.between r.time low high).Exposes ↔
      HasOr r.time.text.toList := fun low high => exposes_iff rfl
  rw [exists_congr fun p => and_congr_left' (iff_of_eq (congrArg (p ∈ ·) r.eq))]
  simp only [List.mem_append, List.mem_cons, List.mem_map, or_and_right, exists_or, hfilters,
    exists_eq_left, hcolumn, htime, hfragment, exists_exists_and_eq_and, and_false, exists_false,
    or_false, conditionColumns, conditionExpressions, ← r.isSome_days]
  -- What is left is the range of dates, about an expression or a column.
  rcases r.time_cases with ⟨d, f, hd, hf, hsubject⟩ | ⟨hd, hsubject⟩
  · have htext : r.time.text = d.expression.text := by
      rw [hsubject]
      exact congrArg SqlText.text hf
    cases hdays : r.days <;> simp [hd, htext, or_assoc]
  · have hor : HasOr r.time.text.toList ↔ "or\n" = settings.timeColumn := by
      rw [hsubject]
      exact (closed_identifier settings.timeColumn).2.trans eq_comm
    cases hdays : r.days <;> simp [hd, hor]

end Restricted

/-! ## Conditions -/

/-- The condition of a query begins with the predicate of the tenant, whose value is the first
parameter. -/
structure TenantFirst (settings : Settings) (request : Request) (q : Query)
    (condition : List Char) : Prop where
  sql : q.sql.toList = q.statement.opening ++ condition ++ q.statement.closing ++
    placeholder (q.params.length - 1)
  closed : IsClosed condition
  first : ∃ rest, condition = (identifier settings.tenantColumn ++ " = $1").toList ++ rest ∧
    (rest = [] ∨ " AND ".toList <+: rest)
  param : q.params.head? = some (.str request.tenant)

/-- The first predicate of a condition is the tenant's. -/
theorem Restricted.exists_parts_eq (r : Restricted settings request primary verdict conditions) :
    ∃ rest, Piece.parts 0 (conditions.map Predicate.pieces) =
      ⟨(identifier settings.tenantColumn ++ " = $1").toList, [.str request.tenant]⟩ :: rest := by
  obtain ⟨filters, hparts, -⟩ := r.parts_eq
  exact ⟨_, hparts⟩

/-- **Which conditions the tenant's predicate governs.** -/
theorem exists_tenantFirst {registry : Registry} {settings : Settings} {request : Request}
    {q : Query} {verdict : Verdict} (hmade : (compile registry settings request).outcome = .ok q)
    (hanswer : (registry.consult request.plan request.lens).answer = .ok verdict)
    (hfragments : ∀ t ∈ verdict.fragments, IsClosed t.toList)
    (hfree : ∀ t ∈ querySources settings request verdict, HoleFree t.toList) :
    ∃ condition, TenantFirst settings request q condition ∧
      (¬ HasOr condition ↔ OrFree settings request q.primaryTable verdict) := by
  obtain ⟨c⟩ := exists_compilation hmade
  obtain ⟨r⟩ := c.restricted_conditions
  obtain rfl := c.verdict_eq hanswer
  have hparts : q.statement.parts = Piece.parts 0 (c.conditions.map Predicate.pieces) := by
    rw [Statement.parts, c.conditions_eq]
  obtain ⟨hclosed, hexposed⟩ := hasOr_parts (fun p hp => r.closed hfragments hp) 0
  obtain ⟨hwhole, hor⟩ := hasOr_intercalate hclosed
  obtain ⟨rest, hrest⟩ := r.exists_parts_eq
  refine ⟨q.statement.conditionText, {
    sql := Statement.text_eq fun t ht => hfree t (c.source_mem ht)
    closed := ?_
    first := ?_
    param := ?_ }, ?_⟩
  · rw [Statement.conditionText, hparts]
    exact hwhole
  · rw [Statement.conditionText, hparts, hrest, List.map_cons]
    cases rest with
    | nil => exact ⟨[], by simp, .inl rfl⟩
    | cons p rest =>
      refine ⟨" AND ".toList ++ " AND ".toList.intercalate ((p :: rest).map Part.text), ?_,
        .inr (List.prefix_append _ _)⟩
      simp
  · rw [Query.params, Statement.params_eq, hparts, hrest]
    rfl
  · rw [Statement.conditionText, hparts, hor, hexposed, r.exists_exposes, c.primaryTable_eq]
    simp only [OrFree, not_or, not_exists, not_and]

theorem exists_tenantFirst_sample :
    ∃ q condition,
      (compile (.constant (.ok sampleVerdict)) {} sampleRequest).outcome = .ok q ∧
        ((Registry.constant (.ok sampleVerdict)).consult sampleRequest.plan
          sampleRequest.lens).answer = .ok sampleVerdict ∧
        (∀ t ∈ sampleVerdict.fragments, IsClosed t.toList) ∧
        (∀ t ∈ querySources {} sampleRequest sampleVerdict, HoleFree t.toList) ∧
        TenantFirst {} sampleRequest q condition ∧
        (¬ HasOr condition ↔ OrFree {} sampleRequest q.primaryTable sampleVerdict) := by
  obtain ⟨q, hq⟩ := exists_sampleQuery
  have hfragments : ∀ t ∈ sampleVerdict.fragments, IsClosed t.toList := by decide
  have hfree : ∀ t ∈ querySources {} sampleRequest sampleVerdict, HoleFree t.toList := by decide
  have hanswer : ((Registry.constant (.ok sampleVerdict)).consult sampleRequest.plan
      sampleRequest.lens).answer = .ok sampleVerdict := rfl
  obtain ⟨condition, h⟩ := exists_tenantFirst hq hanswer hfragments hfree
  exact ⟨q, condition, hq, hanswer, hfragments, hfree, h⟩

/-! ## An `OR` beside the tenant's predicate -/

/-- A catalog with a dimension that is an `OR`. -/
def insiderCatalog : Catalog :=
  .ofLists [{ slug := "sales", expression := ⟨"SUM(net)", true⟩, table := ⟨"daily", true⟩ }]
    [{ slug := "insider", expression := ⟨"is_vip OR is_staff", true⟩, table := ⟨"daily", true⟩
       type := .boolean }] []

def insiderRequest : Request where
  plan :=
    { metrics := ["sales"]
      dimensions := ["insider"]
      filters := [⟨"insider", .equals sampleTruth⟩] }
  tenant := "acme"

/-- Closed fragments are not enough to keep an `OR` from standing beside the tenant's predicate. -/
theorem not_always_governed :
    ¬ ∀ (registry : Registry) (settings : Settings) (request : Request) (q : Query)
        (verdict : Verdict) (condition : List Char),
      (compile registry settings request).outcome = .ok q →
      (registry.consult request.plan request.lens).answer = .ok verdict →
      (∀ t ∈ verdict.fragments, IsClosed t.toList) →
      q.sql.toList = q.statement.opening ++ condition ++ q.statement.closing ++
        placeholder (q.params.length - 1) →
      ¬ HasOr condition := by
  intro hall
  obtain ⟨q, hq⟩ : ∃ q, (compile insiderCatalog.registry {} insiderRequest).outcome = .ok q :=
    exists_of_isOk (by decide +kernel)
  let verdict := insiderCatalog.verdict insiderRequest.plan insiderRequest.lens
  have hfragments : ∀ t ∈ verdict.fragments, IsClosed t.toList := by decide
  have hfree : ∀ t ∈ querySources {} insiderRequest verdict, HoleFree t.toList := by decide
  have hor : (compile insiderCatalog.registry {} insiderRequest).outcome.toOption.all fun q =>
      HasOr q.statement.conditionText := by decide +kernel
  obtain ⟨c⟩ := exists_compilation hq
  have hverdict : c.verdict = verdict := c.verdict_eq rfl
  have hsql := Statement.text_eq fun t ht => hfree t (hverdict ▸ c.source_mem ht)
  refine hall _ _ _ q verdict _ hq rfl hfragments hsql ?_
  simpa only [hq, Except.toOption, Option.all_some, decide_eq_true_eq] using hor

/-- Rows of staff count, whichever tenant's they are. -/
example : (compile insiderCatalog.registry {} insiderRequest).outcome.toOption.map Query.sql =
    some ("SELECT SUM(net) AS \"sales\", is_vip OR is_staff AS \"insider\" \nFROM daily \n" ++
      "WHERE tenant_id = $1 AND is_vip OR is_staff = true GROUP BY is_vip OR is_staff " ++
      "ORDER BY \"sales\" DESC \n LIMIT $2") := by decide +kernel

end MetricQuery
