import MetricQuery.Proofs.Sources
import MetricQuery.Proofs.Stated
import MetricQuery.Proofs.WrittenDates

/-!
# The conditions of a query, part by part

`Restriction.all` puts the conditions of a query together from a request, settings and definitions
whose text has been found fit. `Restricted` says what they are in terms of the definitions alone:
which expression the range of dates is about, which conditions of metrics stand, which filters are
kept and about which expressions.

**Theorem (`exists_specified`).** The condition of a compiled query is the one that `specification`
lists, predicate by predicate, and its parameters are theirs and the limit.
-/

namespace MetricQuery

open Sql

/-! ## First occurrences -/

/-- The distinct members of a list, in the order in which they first occur. -/
structure FirstOccurrences (distinct all : List String) : Prop where
  mem : ∀ t, t ∈ distinct ↔ t ∈ all
  ordered : distinct.Pairwise fun s t => all.idxOf s < all.idxOf t

theorem FirstOccurrences.nodup {distinct all : List String} (h : FirstOccurrences distinct all) :
    distinct.Nodup := by
  refine h.ordered.imp fun hlt heq => ?_
  rw [heq] at hlt
  exact Nat.lt_irrefl _ hlt

theorem idxOf_lt_idxOf_of_filter {p : String → Bool} {s t : String} (hs : p s = true)
    (ht : p t = true) {l : List String} (h : (l.filter p).idxOf s < (l.filter p).idxOf t) :
    l.idxOf s < l.idxOf t := by
  induction l with
  | nil => simp at h
  | cons a l ih =>
    by_cases ha : p a = true
    · rw [List.filter_cons_of_pos ha] at h
      rw [List.idxOf_cons, List.idxOf_cons] at h ⊢
      grind
    · have hsa : (a == s) = false := by simpa using fun heq : a = s => ha (heq ▸ hs)
      have hta : (a == t) = false := by simpa using fun heq : a = t => ha (heq ▸ ht)
      rw [List.filter_cons_of_neg ha] at h
      simpa [List.idxOf_cons, hsa, hta] using ih h

/-- Induction for functions that call themselves on a filtered tail. -/
theorem filter_induction {α : Type} {motive : List α → Prop} (nil : motive [])
    (cons : ∀ a l, (∀ p : α → Bool, motive (l.filter p)) → motive (a :: l)) (l : List α) :
    motive l := by
  induction hn : l.length using Nat.strongRecOn generalizing l with
  | ind n ih =>
    cases l with
    | nil => exact nil
    | cons a l =>
      refine cons a l fun p => ih _ ?_ _ rfl
      exact hn ▸ Nat.lt_succ_of_le (List.length_filter_le p l)

theorem firstOccurrences_eraseDups (l : List String) : FirstOccurrences l.eraseDups l where
  mem _ := List.mem_eraseDups
  ordered := by
    induction l using filter_induction with
    | nil => simp
    | cons a l ih =>
      rw [List.eraseDups_cons, List.pairwise_cons]
      constructor
      · intro t ht
        have hne : a ≠ t := by
          rintro rfl
          simpa using (List.mem_filter.1 (List.mem_eraseDups.1 ht)).2
        simp [hne]
      · refine (ih fun b => !b == a).imp_of_mem fun {s t} hs ht hlt => ?_
        have hkept : ∀ u ∈ (l.filter fun b => !b == a).eraseDups, (!u == a) = true := by
          intro u hu
          exact (List.mem_filter.1 (List.mem_eraseDups.1 hu)).2
        have hcons := idxOf_lt_idxOf_of_filter (p := fun b => !b == a) (l := a :: l)
          (hkept s hs) (hkept t ht)
        exact hcons (by simpa using hlt)

theorem nodup_eraseDups {α : Type} [BEq α] [LawfulBEq α] (l : List α) : l.eraseDups.Nodup := by
  induction l using filter_induction with
  | nil => simp
  | cons a l ih =>
    rw [List.eraseDups_cons, List.nodup_cons]
    exact ⟨by simp, ih _⟩

/-- Things with equal keys are told apart by their keys. -/
theorem map_eraseDupsBy {α β : Type} [BEq β] [LawfulBEq β] (f : α → β) (l : List α) :
    (l.eraseDupsBy fun a b => f a == f b).map f = (l.map f).eraseDups := by
  induction l using filter_induction with
  | nil => rfl
  | cons a l ih =>
    rw [List.eraseDupsBy_cons, List.map_cons, ih, List.map_cons, List.eraseDups_cons,
      List.filter_map]
    congr 4
    funext b
    by_cases hb : f b = f a <;> simp [hb]

/-- Of things with equal keys the first is kept. -/
theorem mem_eraseDupsBy_iff {α β : Type} [BEq β] [LawfulBEq β] (f : α → β) {l : List α} {a : α} :
    a ∈ l.eraseDupsBy (fun s t => f s == f t) ↔ l.find? (fun s => f s == f a) = some a := by
  induction l using filter_induction with
  | nil => simp
  | cons b l ih =>
    rw [List.eraseDupsBy_cons, List.mem_cons, ih, List.find?_filter]
    by_cases hb : f b = f a
    · -- What comes after has another key, so only the head can be meant.
      have hrest : (l.find? fun s => decide
          (decide ((f s == f b) = false) = true ∧ (f s == f a) = true)) = none := by
        rw [List.find?_eq_none]
        simp [hb]
      rw [hrest]
      simp [hb, eq_comm]
    · have hne : a ≠ b := fun h => hb (h ▸ rfl)
      have hrest : (l.find? fun s => decide
          (decide ((f s == f b) = false) = true ∧ (f s == f a) = true)) =
            l.find? fun s => f s == f a := by
        congr 1
        funext s
        by_cases hs : f s = f a <;> simp [hs, Ne.symm hb]
      rw [hrest]
      simp [hb, hne]

theorem eraseDupsBy_sublist {α : Type} (r : α → α → Bool) (l : List α) :
    (l.eraseDupsBy r).Sublist l := by
  induction l using filter_induction with
  | nil => simp
  | cons a l ih =>
    rw [List.eraseDupsBy_cons]
    exact ((ih _).trans List.filter_sublist).cons_cons a

/-! ## Written conditions -/

namespace Condition

/-- The values that a condition binds, in order: its operands. But a truth value to be equal to is
written out, and a text to be contained stands in a pattern. -/
def bound : Condition → List Json
  | equals o =>
    match o.value with
    | .bool _ => []
    | v => [v]
  | contains o => [.str ("%" ++ escapePattern o.value.display ++ "%")]
  | c => c.operands

/-- A condition on an expression as it is written, with `$` for each value it binds. -/
def wording (e : String) : Condition → String
  | equals o =>
    match o.value with
    | .bool b => e ++ if b then " = true" else " = false"
    | _ => e ++ " = $"
  | oneOf choices => e ++ " IN (" ++ ", ".intercalate (choices.map fun _ => "$") ++ ")"
  | atLeast _ => e ++ " >= $"
  | atMost _ => e ++ " <= $"
  | between _ _ => e ++ " BETWEEN $ AND $"
  | contains _ => e ++ " ILIKE $"

end Condition

/-- A predicate as it is written, with `$` for each value, and the values. -/
def Sql.Predicate.written (p : Predicate) : List Char × List Json :=
  (Piece.skeleton p.pieces, Piece.values p.pieces)

theorem written_equality {f : Fragment} (o : Operand) :
    (Predicate.equality (.fragment f) o.value).written =
      (((Condition.equals o).wording f.text).toList, (Condition.equals o).bound) := by
  obtain ⟨v, hv⟩ := o
  cases v with
  | null => simp [Json.isNull] at hv
  | bool b =>
    simp [Predicate.equality, Predicate.written, Predicate.pieces, Piece.skeleton, Piece.values,
      Subject.text, Condition.wording, Condition.bound]
  | _ =>
    simp [Predicate.equality, Predicate.written, Predicate.pieces, Piece.skeleton, Piece.values,
      Subject.text, Comparison.symbol, Condition.wording, Condition.bound]

theorem written_inequality {f : Fragment} {c : Comparison} {v : Json} {p : Predicate}
    (h : Predicate.inequality? (.fragment f) c v = some p) :
    p.written = ((f.text ++ c.symbol ++ "$").toList, [v]) := by
  cases v with
  | null | bool b => simp [Predicate.inequality?] at h
  | _ =>
    obtain rfl := by simpa [Predicate.inequality?] using h
    simp [Predicate.written, Predicate.pieces, Piece.skeleton, Piece.values, Subject.text]

theorem written_oneOf (f : Fragment) (choices : List Json) :
    (Predicate.oneOf (.fragment f) choices).written =
      (((Condition.oneOf choices).wording f.text).toList, choices) := by
  have hvalues :
      (choices.map fun v => [Piece.hole plainStem v]).flatMap Piece.values = choices := by
    induction choices with
    | nil => rfl
    | cons v vs ih => simpa [Piece.values] using ih
  have htexts : (choices.map fun v => [Piece.hole plainStem v]).map Piece.skeleton =
      (choices.map fun _ => "$").map String.toList := by
    rw [List.map_map, List.map_map]
    exact List.map_congr_left fun v _ => by simp [Piece.skeleton]
  simp [Predicate.written, Predicate.pieces, Piece.skeleton, Piece.values, Piece.skeleton_append,
    Piece.values_append, Piece.skeleton_join, Piece.values_join, Subject.text, Condition.wording,
    hvalues, htexts]

theorem eq_some_of_ordered {x : Option Predicate} {p : Predicate}
    (h : Condition.predicate.ordered x = .ok p) : x = some p := by
  cases x with
  | none => simp [Condition.predicate.ordered] at h
  | some p' => simpa [Condition.predicate.ordered] using h

/-- The predicate of a condition is about the subject of the condition. -/
theorem subject?_predicate {c : Condition} {s : Subject} {p : Predicate}
    (h : c.predicate s = .ok p) : p.subject? = some s := by
  have hinequality : ∀ {c v}, Predicate.inequality? s c v = some p → p.subject? = some s := by
    intro c v hp
    cases v with
    | null | bool b => simp [Predicate.inequality?] at hp
    | _ =>
      obtain rfl := by simpa [Predicate.inequality?] using hp
      rfl
  cases c with
  | equals o =>
    obtain rfl := Except.ok.inj h
    cases o.value <;> rfl
  | atLeast o | atMost o => exact hinequality (eq_some_of_ordered h)
  | oneOf _ | between _ _ =>
    obtain rfl := Except.ok.inj h
    rfl
  | contains o =>
    obtain ⟨-, rfl⟩ := Condition.contains_eq_ok_iff.1 h
    rfl

/-- A predicate is written as its condition says. -/
theorem written_predicate {c : Condition} {f : Fragment} {p : Predicate}
    (h : c.predicate (.fragment f) = .ok p) : p.written = ((c.wording f.text).toList, c.bound) := by
  cases c with
  | equals o =>
    obtain rfl := Except.ok.inj h
    exact written_equality o
  | oneOf choices =>
    obtain rfl := Except.ok.inj h
    exact written_oneOf f choices
  | atLeast o =>
    rw [written_inequality (eq_some_of_ordered h)]
    simp [Condition.wording, Comparison.symbol, Condition.bound, Condition.operands]
  | atMost o =>
    rw [written_inequality (eq_some_of_ordered h)]
    simp [Condition.wording, Comparison.symbol, Condition.bound, Condition.operands]
  | between low high =>
    obtain rfl := Except.ok.inj h
    simp [Predicate.written, Predicate.pieces, Piece.skeleton, Piece.values, Subject.text,
      Condition.wording, Condition.bound, Condition.operands]
  | contains o =>
    obtain ⟨-, rfl⟩ := Condition.contains_eq_ok_iff.1 h
    simp [Predicate.written, Predicate.pieces, Piece.skeleton, Piece.values, Subject.text,
      Condition.wording, Condition.bound, containsPattern]

/-! ## Kept filters -/

/-- The filters on resolved dimensions, in order, each with its dimension: of several with one slug
the last. -/
def retained (dimensions : List Dimension) (filters : List Filter) : List (Filter × Dimension) :=
  filters.filterMap fun f =>
    (dimensions.reverse.find? fun d => d.slug == f.slug).map fun d => (f, d)

theorem mem_dimensions_of_retained {dimensions : List Dimension} {filters : List Filter}
    {k : Filter × Dimension} (h : k ∈ retained dimensions filters) : k.2 ∈ dimensions := by
  obtain ⟨f, -, hk⟩ := List.mem_filterMap.1 h
  obtain ⟨d, hd, rfl⟩ := Option.map_eq_some_iff.1 hk
  exact List.mem_reverse.1 (List.mem_of_find?_eq_some hd)

/-- The filters on resolved dimensions are those on the slugs of resolved dimensions. -/
theorem map_fst_retained (dimensions : List Dimension) (filters : List Filter) :
    (retained dimensions filters).map Prod.fst =
      filters.filter fun f => (dimensions.map Dimension.slug).contains f.slug := by
  induction filters with
  | nil => rfl
  | cons f filters ih =>
    simp only [retained, List.filterMap_cons, List.filter_cons] at ih ⊢
    cases hfind : dimensions.reverse.find? fun d => d.slug == f.slug with
    | none =>
      have hslug : ∀ d ∈ dimensions, d.slug ≠ f.slug := by simpa using hfind
      have hnot : (dimensions.map Dimension.slug).contains f.slug = false := by
        simpa only [List.contains_eq_mem, decide_eq_false_iff_not, List.mem_map, not_exists,
          not_and] using hslug
      rw [hnot, if_neg Bool.false_ne_true]
      exact ih
    | some d =>
      have hmem : d ∈ dimensions := List.mem_reverse.1 (List.mem_of_find?_eq_some hfind)
      have hslug : d.slug = f.slug := by simpa using List.find?_some hfind
      have hin : (dimensions.map Dimension.slug).contains f.slug = true := by
        simpa only [List.contains_eq_mem, decide_eq_true_eq, List.mem_map] using ⟨d, hmem, hslug⟩
      rw [hin, if_pos rfl]
      exact congrArg (f :: ·) ih

/-- A predicate states the condition of a kept filter about the expression of its dimension. -/
def States (k : Filter × Dimension) (p : Predicate) : Prop :=
  ∃ f : Fragment, f.source = k.2.expression ∧ k.1.condition.predicate (.fragment f) = .ok p

/-- The dimension that a range of dates is about, if there is one. -/
def timeDimension? (primary : String) (dimensions : List Dimension) : Option Dimension :=
  dimensions.find? fun d => d.isTime && d.table.text == primary

namespace Selection.Resolves

variable {s : Selection} {primary : String} {metrics : List Metric} {dimensions : List Dimension}

theorem find?_slug (h : s.Resolves primary metrics dimensions) (slug : String) :
    dimensions.reverse.find? (fun d => d.slug == slug) =
      (s.find? slug).map SelectedDimension.dimension := by
  rw [← h.dimensions, ← List.map_reverse, List.find?_map]
  rfl

theorem source_of_find? (h : s.Resolves primary metrics dimensions) {slug : String}
    {d : SelectedDimension} (hd : s.find? slug = some d) :
    d.expression.source = d.dimension.expression :=
  h.dimension_source d (List.mem_reverse.1 (List.mem_of_find?_eq_some hd))

/-- The filters kept are those retained, each with the expression of its dimension. -/
theorem retained_kept (h : s.Resolves primary metrics dimensions) (filters : List Filter) :
    List.Forall₂ (fun (k : Filter × Dimension) (e : Filter × Fragment) =>
        e.1 = k.1 ∧ e.2.source = k.2.expression)
      (retained dimensions filters) (Restriction.kept s filters) := by
  induction filters with
  | nil => exact .nil
  | cons f filters ih =>
    simp only [retained, Restriction.kept, List.filterMap_cons, h.find?_slug] at ih ⊢
    cases hd : s.find? f.slug with
    | none => simpa using ih
    | some d => exact .cons ⟨rfl, h.source_of_find? hd⟩ ih

/-- The filters kept are those on the slugs of resolved dimensions. -/
theorem map_fst_kept (h : s.Resolves primary metrics dimensions) (filters : List Filter) :
    (Restriction.kept s filters).map Prod.fst =
      filters.filter fun f => (dimensions.map Dimension.slug).contains f.slug := by
  rw [← map_fst_retained]
  exact (map_eq_map_of_forall₂ (fun _ _ hke => hke.1.symm) (h.retained_kept filters)).symm

theorem states_ofFilters (h : s.Resolves primary metrics dimensions) {filters : List Filter}
    {ps : List Predicate} (hps : Restriction.ofFilters s filters = .ok ps) :
    List.Forall₂ States (retained dimensions filters) ps := by
  have hkept := h.retained_kept filters
  have hmade := mapM_eq_ok.1 hps
  clear hps
  generalize retained dimensions filters = ks at hkept
  generalize Restriction.kept s filters = es at hkept hmade
  induction hkept generalizing ps with
  | nil =>
    cases hmade
    exact .nil
  | cons hke _ ih =>
    cases hmade with
    | cons hp hrest => exact .cons ⟨_, hke.2, hke.1 ▸ hp⟩ (ih hrest)

/-- The expression of the time dimension, or else the column set aside for it. -/
theorem timeSubject_cases (h : s.Resolves primary metrics dimensions) (timeColumn : String) :
    (∃ d f, timeDimension? primary dimensions = some d ∧ f.source = d.expression ∧
        s.timeSubject timeColumn = .fragment f) ∨
      timeDimension? primary dimensions = none ∧ s.timeSubject timeColumn = .column timeColumn := by
  have hfind : timeDimension? primary dimensions = (s.dimensions.find? fun d =>
      d.dimension.isTime && d.dimension.table.text == s.primaryTable).map
        SelectedDimension.dimension := by
    rw [timeDimension?, ← h.dimensions, List.find?_map, h.primaryTable]
    rfl
  unfold Selection.timeSubject
  rw [hfind]
  cases hd : s.dimensions.find? fun d =>
      d.dimension.isTime && d.dimension.table.text == s.primaryTable with
  | none => exact .inr ⟨rfl, rfl⟩
  | some d =>
    exact .inl ⟨d.dimension, d.expression, rfl,
      h.dimension_source d (List.mem_of_find?_eq_some hd), rfl⟩

end Selection.Resolves

/-! ## Conditions of metrics -/

/-- The conditions of metrics that say something, as texts. -/
def metricTexts (metrics : List Metric) : List String :=
  metrics.filterMap fun m => (m.condition.map SqlText.text).filter (· != "")

theorem map_text_metricConditions (metrics : List Metric) :
    (Restriction.metricConditions metrics).map SqlText.text = (metricTexts metrics).eraseDups := by
  have htexts : ((metrics.filterMap Metric.condition).filter (·.text != "")).map SqlText.text =
      metricTexts metrics := by
    induction metrics with
    | nil => rfl
    | cons m metrics ih =>
      simp only [metricTexts, List.filterMap_cons] at ih ⊢
      cases hc : m.condition with
      | none => simpa using ih
      | some t => by_cases ht : t.text = "" <;> simp [Option.filter_some, ht, ih]
  rw [Restriction.metricConditions, map_eraseDupsBy, htexts]

theorem exists_fragments {metrics : List Metric} {ps : List Predicate}
    (h : Restriction.ofMetrics metrics = .ok ps) :
    ∃ fragments : List Fragment, ps = fragments.map .fragment ∧
      fragments.map Fragment.text = (metricTexts metrics).eraseDups := by
  have hmade : List.Forall₂ (fun t p => ∃ f : Fragment, f.source = t ∧ .fragment f = p)
      (Restriction.metricConditions metrics) ps :=
    (mapM_eq_ok.1 h).imp fun t p hp => by
      obtain ⟨f, hf, hp⟩ := map_eq_ok.1 hp
      exact ⟨f, Selection.vouched_eq_ok.1 hf, hp⟩
  obtain ⟨fragments, hsources, rfl⟩ : ∃ fragments : List Fragment,
      fragments.map Fragment.source = Restriction.metricConditions metrics ∧
        ps = fragments.map .fragment := by
    clear h
    generalize Restriction.metricConditions metrics = ts at hmade
    induction hmade with
    | nil => exact ⟨[], rfl, rfl⟩
    | cons hp _ ih =>
      obtain ⟨f, rfl, rfl⟩ := hp
      obtain ⟨fragments, rfl, rfl⟩ := ih
      exact ⟨f :: fragments, rfl, rfl⟩
  refine ⟨fragments, rfl, ?_⟩
  rw [← map_text_metricConditions, ← hsources, List.map_map]
  rfl

/-! ## Ranges of dates -/

/-- The bounds of a range are these dates. -/
def DateRange.ReadsAs (r : DateRange) (days : Date × Date) : Prop :=
  Date.parse r.start = .ok days.1 ∧ Date.parse r.finish = .ok days.2

theorem Span.readsAs_of_check {r : DateRange} {most : Int} {span : Span}
    (h : Span.check r.start r.finish most = .ok span) : r.ReadsAs (span.first, span.last) := by
  obtain ⟨s, hs, -, hcheck⟩ | ⟨s, -, -, hcheck⟩ | ⟨-, fault, -, hcheck⟩ :=
    check_cases r.start r.finish most
  · obtain rfl := Except.ok.inj (hcheck.symm.trans h)
    exact ⟨Date.parse_eq_ok_iff.2 hs.1, Date.parse_eq_ok_iff.2 hs.2⟩
  · cases hcheck.symm.trans h
  · cases hcheck.symm.trans h

theorem exists_days {settings : Settings} {request : Request} {span : Option Span}
    (h : Restriction.span settings request = .ok span) :
    Option.Rel DateRange.ReadsAs request.plan.dateRange
      (span.map fun s => (s.first, s.last)) := by
  unfold Restriction.span at h
  split at h
  · next hrange =>
    obtain rfl := Except.ok.inj h
    rw [hrange]
    exact .none
  · next r hrange =>
    split at h
    · next s hs =>
      obtain rfl := Except.ok.inj h
      rw [hrange]
      exact .some (Span.readsAs_of_check hs)
    · simp at h

/-! ## All conditions -/

/-- The conditions of a query with these resolved definitions. -/
structure Restricted (settings : Settings) (request : Request) (primary : String)
    (verdict : Verdict) (conditions : List Predicate) where
  days : Option (Date × Date)
  /-- What the range of dates is about. -/
  time : Subject
  /-- The conditions of metrics. -/
  fragments : List Fragment
  /-- The predicates of the filters kept. -/
  filters : List Predicate
  reads : Option.Rel DateRange.ReadsAs request.plan.dateRange days
  time_cases :
    (∃ d f, timeDimension? primary verdict.dimensions = some d ∧ f.source = d.expression ∧
        time = .fragment f) ∨
      timeDimension? primary verdict.dimensions = none ∧ time = .column settings.timeColumn
  distinct : FirstOccurrences (fragments.map Fragment.text) (metricTexts verdict.metrics)
  kept : List.Forall₂ States (retained verdict.dimensions request.plan.filters) filters
  eq : conditions =
    .compare (.column settings.tenantColumn) .equal (.str request.tenant) ::
      (request.location.toList.map fun l =>
        .compare (.column settings.locationColumn) .equal (.str l)) ++
      (days.toList.map fun d => .between time (.str d.1.iso) (.str d.2.iso)) ++
      fragments.map .fragment ++ filters

theorem Restricted.isSome_days {settings : Settings} {request : Request} {primary : String}
    {verdict : Verdict} {conditions : List Predicate}
    (r : Restricted settings request primary verdict conditions) :
    r.days.isSome = request.plan.dateRange.isSome := by
  have hreads := r.reads
  cases hdays : r.days <;> cases hdates : request.plan.dateRange <;>
    simp [hdays, hdates] at hreads ⊢

theorem Compilation.restricted_conditions {registry : Registry} {settings : Settings}
    {request : Request} {q : Query} (c : Compilation registry settings request q) :
    Nonempty (Restricted settings request c.first.table.text c.verdict c.conditions) := by
  obtain ⟨span, ofM, ofF, hspan, hofM, -, hofF, heq⟩ := Restriction.all_eq_ok.1 c.restricted
  obtain ⟨fragments, rfl, htexts⟩ := exists_fragments hofM
  refine ⟨{
    days := span.map fun s => (s.first, s.last)
    time := c.selection.timeSubject settings.timeColumn
    fragments
    filters := ofF
    reads := exists_days hspan
    time_cases := c.resolves.timeSubject_cases settings.timeColumn
    distinct := htexts ▸ firstOccurrences_eraseDups (metricTexts c.verdict.metrics)
    kept := c.resolves.states_ofFilters hofF
    eq := ?_ }⟩
  rw [← heq]
  cases hlocation : request.location <;> cases span <;>
    simp [Restriction.scope, Restriction.ofSpan, hlocation]

/-- Where the text of a predicate comes from: it is about a column of the settings or a dimension,
or it is the condition of a metric. -/
inductive Origin (settings : Settings) (verdict : Verdict) (p : Predicate) : Prop
  | column (name : String)
      (hname : name ∈ [settings.tenantColumn, settings.locationColumn, settings.timeColumn])
      (h : p.subject? = some (.column name))
  | dimension (f : Fragment) (d : Dimension) (hd : d ∈ verdict.dimensions)
      (hf : f.text = d.expression.text) (h : p.subject? = some (.fragment f))
  | metric (f : Fragment) (m : Metric) (hm : m ∈ verdict.metrics)
      (hf : m.condition.map SqlText.text = some f.text) (h : p = .fragment f)

theorem Restricted.origin {settings : Settings} {request : Request} {primary : String}
    {verdict : Verdict} {conditions : List Predicate}
    (r : Restricted settings request primary verdict conditions) {p : Predicate}
    (hp : p ∈ conditions) : Origin settings verdict p := by
  rw [r.eq] at hp
  simp only [List.mem_append, List.mem_cons, List.mem_map] at hp
  rcases hp with (((rfl | ⟨l, -, rfl⟩) | ⟨days, -, rfl⟩) | ⟨f, hf, rfl⟩) | hp
  · exact .column settings.tenantColumn (by simp) rfl
  · exact .column settings.locationColumn (by simp) rfl
  · rcases r.time_cases with ⟨d, f, hd, hf, htime⟩ | ⟨-, htime⟩
    · have hmem : d ∈ verdict.dimensions := List.mem_of_find?_eq_some hd
      exact .dimension f d hmem (congrArg SqlText.text hf) (congrArg some htime)
    · exact .column settings.timeColumn (by simp) (congrArg some htime)
  · obtain ⟨m, hm, hcondition⟩ := List.mem_filterMap.1
      ((r.distinct.mem f.text).1 (List.mem_map_of_mem hf))
    exact .metric f m hm (Option.eq_some_of_filter_eq_some hcondition) rfl
  · obtain ⟨k, hk, f, hf, hstates⟩ := exists_left_of_forall₂ r.kept hp
    exact .dimension f k.2 (mem_dimensions_of_retained hk) (congrArg SqlText.text hf)
      (subject?_predicate hstates)

/-! ## A sample -/

/-- Two metrics with one condition, and two dimensions with one slug. -/
def sampleVerdict : Verdict where
  valid := true
  metrics :=
    [{ slug := "sales", expression := ⟨"SUM(net)", true⟩, table := ⟨"reports.daily", true⟩
       condition := some ⟨"status = 'paid' OR override", true⟩ },
      { slug := "orders", expression := ⟨"COUNT(*)", true⟩, table := ⟨"reports.daily", true⟩
        condition := some ⟨"status = 'paid' OR override", true⟩ }]
  dimensions :=
    [{ slug := "day", expression := ⟨"business_date", true⟩, table := ⟨"reports.daily", true⟩
       type := .date, time := some {} },
      { slug := "region", expression := ⟨"region", true⟩, table := ⟨"reports.daily", true⟩ },
      { slug := "region", expression := ⟨"lower(region)", true⟩
        table := ⟨"reports.daily", true⟩ }]

def sampleTruth : Operand := ⟨.bool true, rfl⟩

/-- A request with every kind of condition, and with a filter on a dimension not resolved. -/
def sampleRequest : Request where
  plan :=
    { metrics := ["sales", "orders"]
      dimensions := ["day", "region"]
      filters :=
        [⟨"region", .oneOf [.str "north", .null]⟩, ⟨"colour", .equals ⟨.str "red", rfl⟩⟩,
          ⟨"region", .equals sampleTruth⟩, ⟨"region", .contains ⟨.str "50%", rfl⟩⟩]
      dateRange := some ⟨"2024-02-28", "2024-03-01"⟩
      bucket := some .month }
  tenant := "acme"
  location := some "L1"

theorem exists_sampleQuery :
    ∃ q, (compile (.constant (.ok sampleVerdict)) {} sampleRequest).outcome = .ok q :=
  exists_of_isOk (by decide +kernel)

/-! ## The condition as it is written -/

/-- What a range of dates is about, as it is written. -/
def timeText (timeColumn primary : String) (dimensions : List Dimension) : String :=
  match timeDimension? primary dimensions with
  | some d => d.expression.text
  | none => identifier timeColumn

/-- The predicates of a condition in order, each with `$` for its values and with the values. -/
def specification (settings : Settings) (request : Request) (primary : String) (verdict : Verdict)
    (days : Option (Date × Date)) (texts : List String) : List (List Char × List Json) :=
  ((identifier settings.tenantColumn ++ " = $").toList, [.str request.tenant]) ::
    (request.location.toList.map fun l =>
      ((identifier settings.locationColumn ++ " = $").toList, [.str l])) ++
    (days.toList.map fun d =>
      ((timeText settings.timeColumn primary verdict.dimensions ++ " BETWEEN $ AND $").toList,
        [.str d.1.iso, .str d.2.iso])) ++
    (texts.map fun t => (("(" ++ t ++ ")").toList, [])) ++
    (retained verdict.dimensions request.plan.filters).map fun k =>
      ((k.1.condition.wording k.2.expression.text).toList, k.1.condition.bound)

theorem Restricted.time_text {settings : Settings} {request : Request} {primary : String}
    {verdict : Verdict} {conditions : List Predicate}
    (r : Restricted settings request primary verdict conditions) :
    r.time.text = timeText settings.timeColumn primary verdict.dimensions := by
  unfold timeText
  rcases r.time_cases with ⟨d, f, hd, hf, htime⟩ | ⟨hnone, htime⟩
  · rw [hd, htime]
    exact congrArg SqlText.text hf
  · rw [hnone, htime]
    rfl

theorem Restricted.written_eq {settings : Settings} {request : Request} {primary : String}
    {verdict : Verdict} {conditions : List Predicate}
    (r : Restricted settings request primary verdict conditions) :
    conditions.map Predicate.written = specification settings request primary verdict r.days
      (r.fragments.map Fragment.text) := by
  have hfilters : (retained verdict.dimensions request.plan.filters).map
      (fun k => ((k.1.condition.wording k.2.expression.text).toList, k.1.condition.bound)) =
        r.filters.map Predicate.written := by
    refine map_eq_map_of_forall₂ (fun k p hp => ?_) r.kept
    obtain ⟨f, hf, hp⟩ := hp
    rw [written_predicate hp, Fragment.text, hf]
  have hequal : ∀ column v, (Predicate.compare (.column column) .equal v).written =
      ((identifier column ++ " = $").toList, [v]) := by
    intro column v
    simp [Predicate.written, Predicate.pieces, Piece.skeleton, Piece.values, Subject.text,
      Comparison.symbol]
  have hbetween : ∀ low high, (Predicate.between r.time low high).written =
      ((timeText settings.timeColumn primary verdict.dimensions ++ " BETWEEN $ AND $").toList,
        [low, high]) := by
    intro low high
    simp [Predicate.written, Predicate.pieces, Piece.skeleton, Piece.values, r.time_text]
  have hfragment : ∀ f : Fragment, (Predicate.fragment f).written =
      (("(" ++ f.text ++ ")").toList, []) := by
    intro f
    simp [Predicate.written, Predicate.pieces, Piece.skeleton, Piece.values]
  refine (congrArg (List.map Predicate.written) r.eq).trans ?_
  rw [specification, hfilters]
  simp only [List.map_append, List.map_cons, List.map_map, Function.comp_def, hequal, hbetween,
    hfragment]

/-- The condition of a query is the one specified, for these dates and conditions of metrics. -/
structure Specified (settings : Settings) (request : Request) (verdict : Verdict) (q : Query)
    (days : Option (Date × Date)) (texts : List String) : Prop where
  primary : verdict.metrics.head?.map (fun m => m.table.text) = some q.primaryTable
  reads : Option.Rel DateRange.ReadsAs request.plan.dateRange days
  distinct : FirstOccurrences texts (metricTexts verdict.metrics)
  predicates : q.statement.conditions.map Predicate.written =
    specification settings request q.primaryTable verdict days texts
  joined : Piece.skeleton q.statement.conditionPieces = " AND ".toList.intercalate
    ((specification settings request q.primaryTable verdict days texts).map Prod.fst)
  /-- Nothing else binds a parameter, but the limit. -/
  params : q.params = (specification settings request q.primaryTable verdict days texts).flatMap
    Prod.snd ++ [.int q.statement.limit]
  /-- The query has this condition, with its placeholders numbered. -/
  sql : (∀ t ∈ q.statement.sources, HoleFree t.toList) →
    q.sql.toList = q.statement.opening ++ Piece.numbered 0 q.statement.conditionPieces ++
      q.statement.closing ++ placeholder (q.params.length - 1)

/-- **The condition is the specified one.** The predicates of a compiled query, in order, are: the
tenant's; the location's if there is one; a range of dates if there is one; the distinct conditions
of metrics between brackets; the filters on resolved dimensions. -/
theorem exists_specified {registry : Registry} {settings : Settings} {request : Request}
    {q : Query} {verdict : Verdict} (hmade : (compile registry settings request).outcome = .ok q)
    (hanswer : (registry.consult request.plan request.lens).answer = .ok verdict) :
    ∃ days texts, Specified settings request verdict q days texts := by
  obtain ⟨c⟩ := exists_compilation hmade
  obtain ⟨r⟩ := c.restricted_conditions
  obtain rfl := c.verdict_eq hanswer
  have hwritten : q.statement.conditions.map Predicate.written = specification settings request
      q.primaryTable c.verdict r.days (r.fragments.map Fragment.text) := by
    rw [c.conditions_eq, c.primaryTable_eq]
    exact r.written_eq
  refine ⟨r.days, r.fragments.map Fragment.text, {
    primary := ?_
    reads := r.reads
    distinct := r.distinct
    predicates := hwritten
    joined := ?_
    params := ?_
    sql := ?_ }⟩
  · rw [c.first_metric, c.primaryTable_eq]
    rfl
  · rw [← hwritten, Statement.conditionPieces, Piece.skeleton_join, List.map_map, List.map_map]
    rfl
  · rw [← hwritten, Query.params, Statement.params_eq, ← Statement.values_conditionPieces,
      Statement.conditionPieces, Piece.values_join, List.flatMap_map, List.flatMap_map]
    rfl
  · intro hfree
    rw [Statement.conditionPieces, Piece.numbered_join]
    exact Statement.text_eq hfree

theorem exists_specified_sample :
    ∃ q days texts,
      (compile (.constant (.ok sampleVerdict)) {} sampleRequest).outcome = .ok q ∧
        ((Registry.constant (.ok sampleVerdict)).consult sampleRequest.plan
          sampleRequest.lens).answer = .ok sampleVerdict ∧
        Specified {} sampleRequest sampleVerdict q days texts := by
  obtain ⟨q, hq⟩ := exists_sampleQuery
  have hanswer : ((Registry.constant (.ok sampleVerdict)).consult sampleRequest.plan
      sampleRequest.lens).answer = .ok sampleVerdict := rfl
  obtain ⟨days, texts, h⟩ := exists_specified hq hanswer
  exact ⟨q, days, texts, hq, hanswer, h⟩

end MetricQuery
