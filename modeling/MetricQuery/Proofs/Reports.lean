import MetricQuery.Proofs.Acceptance
import Mathlib.Data.Sym.Sym2

/-!
# What a catalog reports

A catalog says all that is wrong with a plan, rule by rule, and no rule waits for another.

**Theorem (`itemized_verdict`).** Of the slugs of a plan each is reported once, however often it
stands there; so is each metric that lacks dimensions, and each pair of metrics that cannot stand
side by side, from whichever side that is declared. Filters and sort keys are reported each for
itself. Nothing else is.

All rules but one go through a list and have at most one thing to say about each member of it
(`Yields`). The rule of pairs keeps the first of several declarations of one pair. Whether two are
of one pair shows in the unordered pairs (`samePair_eq`), so these are what is counted.
-/

namespace MetricQuery

open HasSlug

/-! ## Going through a list -/

/-- Each member of the first list that something is said about has it in the second, in order. -/
inductive Yields {α β : Type} (R : α → β → Prop) : List α → List β → Prop
  | nil : Yields R [] []
  | one {a : α} {b : β} {as : List α} {bs : List β} (h : R a b) (hrest : Yields R as bs) :
      Yields R (a :: as) (b :: bs)
  | none {a : α} {as : List α} {bs : List β} (h : ∀ b, ¬ R a b) (hrest : Yields R as bs) :
      Yields R (a :: as) bs

theorem yields_filterMap {α β γ : Type} {R : α → γ → Prop} {f : α → Option β} {g : β → γ}
    (h : ∀ a c, R a c ↔ ∃ b, f a = some b ∧ g b = c) (l : List α) :
    Yields R l ((l.filterMap f).map g) := by
  induction l with
  | nil => exact .nil
  | cons a l ih =>
    cases hf : f a with
    | none =>
      rw [List.filterMap_cons_none hf]
      refine .none (fun c hc => ?_) ih
      obtain ⟨b, hb, -⟩ := (h a c).1 hc
      simp [hf] at hb
    | some b =>
      rw [List.filterMap_cons_some hf, List.map_cons]
      exact .one ((h a (g b)).2 ⟨b, hf, rfl⟩) ih

theorem yields_filter {α γ : Type} {R : α → γ → Prop} {P : α → Bool} {g : α → γ}
    (h : ∀ a c, R a c ↔ P a = true ∧ g a = c) (l : List α) : Yields R l ((l.filter P).map g) := by
  rw [← List.filterMap_eq_filter]
  refine yields_filterMap (fun a c => ?_) l
  rw [h a c]
  simp [Option.guard_eq_some_iff]

/-! ## Slugs -/

/-- What is said about a slug that has no active definition. -/
inductive SlugText {α : Type} (find? : String → Option α) (active : α → Bool)
    (unknown inactive : String) (s : String) : String → Prop
  | unknown (h : find? s = none) : SlugText find? active unknown inactive s (unknown ++ s)
  | inactive {a : α} (h : find? s = some a) (ha : active a = false) :
      SlugText find? active unknown inactive s (inactive ++ s)

theorem slugText_iff {α : Type} {find? : String → Option α} {active : α → Bool}
    {unknown inactive s t : String} {x : Option Objection} {u i : Objection}
    (hnone : find? s = none → x = some u)
    (hsome : ∀ a, find? s = some a → x = if active a then none else some i)
    (hu : u.message = unknown ++ s) (hi : i.message = inactive ++ s) :
    SlugText find? active unknown inactive s t ↔ ∃ o, x = some o ∧ o.message = t := by
  constructor
  · intro h
    cases h with
    | unknown hfind => exact ⟨u, hnone hfind, hu⟩
    | inactive hfind ha => exact ⟨i, by simp [hsome _ hfind, ha], hi⟩
  · rintro ⟨o, ho, rfl⟩
    cases hfind : find? s with
    | none =>
      obtain rfl : u = o := Option.some.inj ((hnone hfind).symm.trans ho)
      exact hu ▸ .unknown hfind
    | some a =>
      obtain ⟨ha, rfl⟩ : active a = false ∧ i = o := by simpa [hsome a hfind] using ho
      exact hi ▸ .inactive hfind ha

/-! ## Pairs of metrics -/

/-- A pair, whichever of the two comes first. -/
def unordered (q : String × String) : Sym2 String := s(q.1, q.2)

/-- The metric declares that it cannot stand beside the other of the pair. -/
def Metric.Declares (m : Metric) (pair : Sym2 String) : Prop :=
  ∃ s ∈ m.incompatible, s(m.slug, s) = pair

/-- The pairs of these metrics of which one declares the other incompatible, each pair once, and as
the first metric that declares it has it. -/
structure Clashes (metrics : List Metric) (pairs : List (String × String)) : Prop where
  nodup : (pairs.map unordered).Nodup
  mem : ∀ a b, s(a, b) ∈ pairs.map unordered ↔
    ∃ m ∈ metrics, ∃ n ∈ metrics, m.slug = a ∧ n.slug = b ∧
      (b ∈ m.incompatible ∨ a ∈ n.incompatible)
  first : ∀ q ∈ pairs, ∃ before m after, metrics = before ++ m :: after ∧ m.slug = q.1 ∧
    q.2 ∈ m.incompatible ∧ ∀ n ∈ before, ¬ n.Declares (unordered q)
  /-- They come in the order in which they are declared. -/
  ordered : pairs.Sublist (metrics.flatMap fun m => m.incompatible.map fun s => (m.slug, s))

namespace Catalog

theorem samePair_eq : samePair = fun p q => unordered p == unordered q := by
  funext p q
  rw [Bool.eq_iff_iff, samePair, beq_iff_eq, unordered, unordered, Sym2.eq_iff]
  simp [Prod.ext_iff]

/-- The declarations of one metric that name a selected one. -/
def declarations (slugs : List String) (m : Metric) : List (String × String) :=
  (m.incompatible.filter slugs.contains).map fun s => (m.slug, s)

theorem mem_declarations {slugs : List String} {m : Metric} {q : String × String} :
    q ∈ declarations slugs m ↔ m.slug = q.1 ∧ q.2 ∈ m.incompatible ∧ q.2 ∈ slugs := by
  obtain ⟨a, b⟩ := q
  simp only [declarations, List.mem_map, List.mem_filter, List.contains_eq_mem, decide_eq_true_eq,
    Prod.mk.injEq]
  constructor
  · rintro ⟨s, ⟨hs, hslugs⟩, hm, rfl⟩
    exact ⟨hm, hs, hslugs⟩
  · rintro ⟨hm, hs, hslugs⟩
    exact ⟨b, ⟨hs, hslugs⟩, hm, rfl⟩

theorem incompatiblePairs_eq (metrics : List Metric) :
    incompatiblePairs metrics =
      (metrics.flatMap (declarations (metrics.map Metric.slug))).eraseDupsBy
        fun p q => unordered p == unordered q := by
  rw [← samePair_eq]
  rfl

theorem mem_map_unordered_incompatiblePairs {metrics : List Metric} {a b : String} :
    s(a, b) ∈ (incompatiblePairs metrics).map unordered ↔
      ∃ m ∈ metrics, ∃ n ∈ metrics, m.slug = a ∧ n.slug = b ∧
        (b ∈ m.incompatible ∨ a ∈ n.incompatible) := by
  rw [incompatiblePairs_eq, map_eraseDupsBy, List.mem_eraseDups, List.mem_map]
  constructor
  · rintro ⟨q, hq, hpair⟩
    obtain ⟨m, hm, hdeclared⟩ := List.mem_flatMap.1 hq
    obtain ⟨hslug, hother, hselected⟩ := mem_declarations.1 hdeclared
    obtain ⟨n, hn, hnslug⟩ := List.mem_map.1 hselected
    obtain ⟨ha, hb⟩ | ⟨ha, hb⟩ := Sym2.eq_iff.1 hpair
    · exact ⟨m, hm, n, hn, hslug.trans ha, hnslug.trans hb, .inl (hb ▸ hother)⟩
    · exact ⟨n, hn, m, hm, hnslug.trans hb, hslug.trans ha, .inr (hb ▸ hother)⟩
  · rintro ⟨m, hm, n, hn, rfl, rfl, hdeclares | hdeclares⟩
    · exact ⟨(m.slug, n.slug), List.mem_flatMap.2
        ⟨m, hm, mem_declarations.2 ⟨rfl, hdeclares, List.mem_map_of_mem hn⟩⟩, rfl⟩
    · exact ⟨(n.slug, m.slug), List.mem_flatMap.2
        ⟨n, hn, mem_declarations.2 ⟨rfl, hdeclares, List.mem_map_of_mem hm⟩⟩, Sym2.eq_swap⟩

/-- Of the declarations of one pair the first is kept. -/
theorem exists_first_declares {metrics : List Metric} {q : String × String}
    (hq : q ∈ incompatiblePairs metrics) :
    ∃ before m after, metrics = before ++ m :: after ∧ m.slug = q.1 ∧ q.2 ∈ m.incompatible ∧
      ∀ n ∈ before, ¬ n.Declares (unordered q) := by
  rw [incompatiblePairs_eq, mem_eraseDupsBy_iff, List.find?_flatMap,
    List.findSome?_eq_some_iff] at hq
  obtain ⟨before, m, after, hmetrics, hfound, hbefore⟩ := hq
  obtain ⟨hslug, hother, hselected⟩ := mem_declarations.1 (List.mem_of_find?_eq_some hfound)
  refine ⟨before, m, after, hmetrics, hslug, hother, fun n hn hdeclares => ?_⟩
  obtain ⟨s, hs, hpair⟩ := hdeclares
  -- Both of the pair are selected, so the declaration would have counted.
  have hs_selected : s ∈ metrics.map Metric.slug := by
    obtain ⟨-, rfl⟩ | ⟨-, rfl⟩ := Sym2.eq_iff.1 hpair
    · exact hselected
    · rw [← hslug, hmetrics]
      exact List.mem_map_of_mem (List.mem_append_right _ List.mem_cons_self)
  have hnone := List.find?_eq_none.1 (hbefore n hn) (n.slug, s)
    (mem_declarations.2 ⟨rfl, hs, hs_selected⟩)
  exact hnone (beq_iff_eq.2 hpair)

theorem clashes_incompatiblePairs (metrics : List Metric) :
    Clashes metrics (incompatiblePairs metrics) where
  nodup := by
    rw [incompatiblePairs_eq, map_eraseDupsBy]
    exact nodup_eraseDups _
  mem _ _ := mem_map_unordered_incompatiblePairs
  first _ := exists_first_declares
  ordered := by
    have hsublist : (metrics.flatMap (declarations (metrics.map Metric.slug))).Sublist
        (metrics.flatMap fun m => m.incompatible.map fun s => (m.slug, s)) := by
      refine List.Sublist.flatMap_right _ fun m _ => ?_
      exact List.filter_sublist.map _
    rw [incompatiblePairs_eq]
    exact (eraseDupsBy_sublist _ _).trans hsublist

end Catalog

/-! ## Texts of the other rules -/

/-- What is said about a metric that requires dimensions which are not selected. -/
def MissingText (selected : List String) (m : Metric) (t : String) : Prop :=
  ∃ missing, missing = m.requires.filter (fun s => !selected.contains s) ∧ missing ≠ [] ∧
    t = "Metric '" ++ m.slug ++ "' requires dimension(s): " ++ ", ".intercalate missing

/-- What is said about a slug that the catalog knows and the lens does not show. -/
def OutsideText {α : Type} (before : String) (find? : String → Option α)
    (shown : Option (List String)) (lens s t : String) : Prop :=
  (∃ a, find? s = some a) ∧ (∃ slugs, shown = some slugs ∧ s ∉ slugs) ∧
    t = before ++ s ++ "' is not allowed in lens '" ++ lens ++ "'"

/-- What is said because of a lens, of plans that select these slugs. -/
inductive LensTexts (metric? : String → Option Metric) (dimension? : String → Option Dimension)
    (lens? : String → Option Lens) (metrics dimensions : List String) :
    Option String → List String → Prop
  | unasked : LensTexts metric? dimension? lens? metrics dimensions none []
  | unknown {slug : String} (h : ∀ l, lens? slug = some l → l.active = false) :
      LensTexts metric? dimension? lens? metrics dimensions (some slug) ["Unknown lens: " ++ slug]
  | known {slug : String} {l : Lens} {ofMetrics ofDimensions : List String}
      (h : lens? slug = some l) (hactive : l.active = true)
      (hmetrics : Yields (OutsideText "Metric '" metric? l.metrics slug) metrics ofMetrics)
      (hdimensions : Yields (OutsideText "Dimension '" dimension? l.dimensions slug)
        dimensions ofDimensions) :
      LensTexts metric? dimension? lens? metrics dimensions (some slug) (ofMetrics ++ ofDimensions)

/-- What is said about a filter on a selected dimension that its operator does not suit. -/
def OperatorText (dimension? : String → Option Dimension) (p : Plan) (f : Filter) (t : String) :
    Prop :=
  f.slug ∈ p.dimensions ∧ ∃ d, dimension? f.slug = some d ∧
    f.condition.operator ∉ d.type.operators ∧
    t = "Operator '" ++ f.condition.operator.name ++ "' not allowed for " ++ d.type.name ++
      " dimension '" ++ f.slug ++ "'"

/-- What is said about a sort key that is not selected. -/
def SortText (p : Plan) (k : SortKey) (t : String) : Prop :=
  k.slug ∉ p.metrics ∧ k.slug ∉ p.dimensions ∧
    t = "Sort key '" ++ k.slug ++ "' is not a selected metric or dimension"

namespace Catalog

variable {c : Catalog} {p : Plan}

theorem metricText_iff {s t : String} :
    SlugText c.metrics.find? Metric.active "Unknown metric: " "Metric is inactive: " s t ↔
      ∃ o, c.metricObjection s = some o ∧ o.message = t :=
  slugText_iff (fun hnone => by rw [metricObjection, hnone])
    (fun m hm => by rw [metricObjection, hm]) rfl rfl

theorem dimensionText_iff {s t : String} :
    SlugText c.dimensions.find? Dimension.active "Unknown dimension: " "Dimension is inactive: "
        s t ↔
      ∃ o, c.dimensionObjection s = some o ∧ o.message = t :=
  slugText_iff (fun hnone => by rw [dimensionObjection, hnone])
    (fun d hd => by rw [dimensionObjection, hd]) rfl rfl

theorem message_missingDimensions (metric : String) (missing : List String) :
    (Objection.missingDimensions metric missing).message =
      "Metric '" ++ metric ++ "' requires dimension(s): " ++ ", ".intercalate missing := rfl

theorem missingText_iff {selected : List String} {m : Metric} {t : String} :
    MissingText selected m t ↔
      ∃ o, requirementObjection selected m = some o ∧ o.message = t := by
  unfold MissingText requirementObjection
  dsimp only
  split
  · next hnone =>
    constructor
    · rintro ⟨_, rfl, hne, -⟩
      exact absurd (List.isEmpty_iff.1 hnone) hne
    · rintro ⟨o, ho, -⟩
      simp at ho
  · next hsome =>
    constructor
    · rintro ⟨_, rfl, -, rfl⟩
      exact ⟨_, rfl, message_missingDimensions _ _⟩
    · rintro ⟨o, ho, rfl⟩
      obtain rfl := Option.some.inj ho
      exact ⟨_, rfl, fun hnone => hsome (List.isEmpty_iff.2 hnone), message_missingDimensions _ _⟩

theorem message_unsuitedOperator (operator : Operator) (type : ColumnType) (slug : String) :
    (Objection.unsuitedOperator operator type slug).message =
      "Operator '" ++ operator.name ++ "' not allowed for " ++ type.name ++
        " dimension '" ++ slug ++ "'" := by
  show "Operator '" ++ operator.name ++ "' not allowed for " ++ type.name ++
    (" dimension '" ++ slug ++ "'") = _
  rw [← String.append_assoc, ← String.append_assoc]

theorem operatorText_iff {f : Filter} {t : String} :
    OperatorText c.dimensions.find? p f t ↔
      ∃ o, c.filterObjection p f = some o ∧ o.message = t := by
  unfold filterObjection
  by_cases hslug : f.slug ∈ p.dimensions
  · rw [if_pos (by simpa using hslug)]
    cases hfind : c.dimensions.find? f.slug with
    | none => simp [OperatorText, hfind]
    | some d =>
      dsimp only
      by_cases hsuits : f.condition.operator ∈ d.type.operators
      · simp [OperatorText, hfind, hsuits]
      · have hd : d.slug = f.slug := SlugMap.slug_of_find? hfind
        rw [if_neg (by simpa using hsuits), hd]
        constructor
        · rintro ⟨-, d', hd', -, rfl⟩
          obtain rfl := Option.some.inj (hfind.symm.trans hd')
          exact ⟨_, rfl, message_unsuitedOperator _ _ _⟩
        · rintro ⟨o, ho, rfl⟩
          obtain rfl := Option.some.inj ho
          exact ⟨hslug, d, hfind, hsuits, message_unsuitedOperator _ _ _⟩
  · rw [if_neg (by simpa using hslug)]
    simp [OperatorText, hslug]

theorem sortText_iff {k : SortKey} {t : String} :
    SortText p k t ↔ ∃ o, sortObjection p k = some o ∧ o.message = t := by
  unfold SortText sortObjection
  by_cases hmetric : k.slug ∈ p.metrics
  · simp [hmetric]
  · by_cases hdimension : k.slug ∈ p.dimensions
    · simp [hdimension]
    · simp only [hmetric, hdimension, not_false_eq_true, true_and, List.contains_eq_mem,
        decide_false, Bool.or_self, Bool.false_eq_true, if_false, Option.some.injEq,
        exists_eq_left']
      exact eq_comm

theorem message_metricOutsideLens (metric lens : String) :
    (Objection.metricOutsideLens metric lens).message =
      "Metric '" ++ metric ++ "' is not allowed in lens '" ++ lens ++ "'" := rfl

theorem message_dimensionOutsideLens (dimension lens : String) :
    (Objection.dimensionOutsideLens dimension lens).message =
      "Dimension '" ++ dimension ++ "' is not allowed in lens '" ++ lens ++ "'" := rfl

theorem yields_outside {α : Type} [HasSlug α] {m : SlugMap α} {before lens : String}
    {o : String → Objection}
    (ho : ∀ s, (o s).message = before ++ s ++ "' is not allowed in lens '" ++ lens ++ "'")
    (shown : Option (List String)) (slugs : List String) :
    Yields (OutsideText before m.find? shown lens) slugs
      (((slugs.filter fun s => m.contains s && !Lens.allows shown s).map o).map
        Objection.message) := by
  rw [List.map_map]
  refine yields_filter (fun s t => ?_) slugs
  have hshown : (!Lens.allows shown s) = true ↔ ∃ slugs, shown = some slugs ∧ s ∉ slugs := by
    rw [Bool.not_eq_true', ← Bool.not_eq_true, Lens.allows_iff]
    simp only [not_forall, exists_prop]
  rw [OutsideText, Function.comp_apply, ho, Bool.and_eq_true, hshown, SlugMap.contains,
    Option.isSome_iff_exists, and_assoc, eq_comm (a := t)]

theorem lensTexts (c : Catalog) (p : Plan) (lens : Option String) :
    LensTexts c.metrics.find? c.dimensions.find? c.lenses.find? p.metrics.eraseDups
      p.dimensions.eraseDups lens
      (((lens.map (c.lensObjections p)).getD []).map Objection.message) := by
  cases lens with
  | none => exact .unasked
  | some slug =>
    rw [Option.map_some, Option.getD_some, lensObjections]
    cases hlens : c.activeLens? slug with
    | none =>
      refine .unknown fun l hl => ?_
      rw [activeLens?, hl] at hlens
      simpa using hlens
    | some l =>
      obtain ⟨hl, hactive⟩ := Option.filter_eq_some_iff.1 hlens
      rw [List.map_append]
      exact .known hl hactive
        (yields_outside (fun s => message_metricOutsideLens s slug) l.metrics p.metrics.eraseDups)
        (yields_outside (fun s => message_dimensionOutsideLens s slug) l.dimensions
          p.dimensions.eraseDups)

end Catalog

/-! ## Reports -/

/-- The errors for a plan are what the rules say about it, rule by rule. -/
structure Itemized (metric? : String → Option Metric) (dimension? : String → Option Dimension)
    (lens? : String → Option Lens) (p : Plan) (lens : Option String) (errors : List String) where
  /-- The slugs of the plan, each once. -/
  metricSlugs : List String
  dimensionSlugs : List String
  /-- What they resolve to. -/
  metrics : List Metric
  dimensions : List Dimension
  pairs : List (String × String)
  ofMetricSlugs : List String
  ofDimensionSlugs : List String
  ofRequirements : List String
  ofLens : List String
  ofFilters : List String
  ofSort : List String
  metricSlugs_first : FirstOccurrences metricSlugs p.metrics
  dimensionSlugs_first : FirstOccurrences dimensionSlugs p.dimensions
  resolves_metrics : Yields (fun s m => metric? s = some m ∧ m.active = true) metricSlugs metrics
  resolves_dimensions :
    Yields (fun s d => dimension? s = some d ∧ d.active = true) dimensionSlugs dimensions
  metric_slugs : Yields (SlugText metric? Metric.active "Unknown metric: " "Metric is inactive: ")
    metricSlugs ofMetricSlugs
  dimension_slugs :
    Yields (SlugText dimension? Dimension.active "Unknown dimension: " "Dimension is inactive: ")
      dimensionSlugs ofDimensionSlugs
  requirements : Yields (MissingText (dimensions.map Dimension.slug)) metrics ofRequirements
  clashes : Clashes metrics pairs
  shown : LensTexts metric? dimension? lens? metricSlugs dimensionSlugs lens ofLens
  operators : Yields (OperatorText dimension? p) p.filters ofFilters
  sort : Yields (SortText p) (p.sort.getD []) ofSort
  eq : errors = ofMetricSlugs ++ ofDimensionSlugs ++ ofRequirements ++
    pairs.map (fun q => "Metric '" ++ q.1 ++ "' is incompatible with '" ++ q.2 ++ "'") ++
    ofLens ++ ofFilters ++ ofSort

theorem SlugMap.yields_selected {α : Type} [HasSlug α] (m : SlugMap α) (active : α → Bool)
    (slugs : List String) :
    Yields (fun s a => m.find? s = some a ∧ active a = true) slugs.eraseDups
      (m.selected active slugs) := by
  have h := yields_filterMap (R := fun s a => m.find? s = some a ∧ active a = true)
    (f := fun s => (m.find? s).filter active) (g := id)
    (fun s a => by simp [Option.filter_eq_some_iff]) slugs.eraseDups
  rwa [List.map_id] at h

/-- The errors of a catalog, group by group. -/
def Catalog.itemized (c : Catalog) (p : Plan) (lens : Option String) :
    Itemized c.metrics.find? c.dimensions.find? c.lenses.find? p lens
      (c.verdict p lens).errors where
  metricSlugs := p.metrics.eraseDups
  dimensionSlugs := p.dimensions.eraseDups
  metrics := c.selectedMetrics p
  dimensions := c.selectedDimensions p
  pairs := incompatiblePairs (c.selectedMetrics p)
  ofMetricSlugs := (p.metrics.eraseDups.filterMap c.metricObjection).map Objection.message
  ofDimensionSlugs := (p.dimensions.eraseDups.filterMap c.dimensionObjection).map Objection.message
  ofRequirements := ((c.selectedMetrics p).filterMap
    (requirementObjection ((c.selectedDimensions p).map Dimension.slug))).map Objection.message
  ofLens := ((lens.map (c.lensObjections p)).getD []).map Objection.message
  ofFilters := (p.filters.filterMap (c.filterObjection p)).map Objection.message
  ofSort := ((p.sort.getD []).filterMap (sortObjection p)).map Objection.message
  metricSlugs_first := firstOccurrences_eraseDups p.metrics
  dimensionSlugs_first := firstOccurrences_eraseDups p.dimensions
  resolves_metrics := c.metrics.yields_selected Metric.active p.metrics
  resolves_dimensions := c.dimensions.yields_selected Dimension.active p.dimensions
  metric_slugs := yields_filterMap (fun s _ => metricText_iff (s := s)) p.metrics.eraseDups
  dimension_slugs := yields_filterMap (fun s _ => dimensionText_iff (s := s)) p.dimensions.eraseDups
  requirements := yields_filterMap (fun m _ => missingText_iff (m := m)) (c.selectedMetrics p)
  clashes := clashes_incompatiblePairs (c.selectedMetrics p)
  shown := c.lensTexts p lens
  operators := yields_filterMap (fun f _ => operatorText_iff (f := f)) p.filters
  sort := yields_filterMap (fun k _ => sortText_iff (k := k)) (p.sort.getD [])
  eq := by
    rw [errors_verdict, objections]
    simp only [List.map_append, List.map_map]
    rfl

/-- **What a catalog reports.** -/
theorem itemized_verdict (metrics : List Metric) (dimensions : List Dimension) (lenses : List Lens)
    (p : Plan) (lens : Option String) :
    ∃ v, ((Catalog.ofLists metrics dimensions lenses).registry.consult p lens).answer = .ok v ∧
      Nonempty (Itemized (lastWith metrics) (lastWith dimensions) (lastWith lenses) p lens
        v.errors) := by
  refine ⟨(Catalog.ofLists metrics dimensions lenses).verdict p lens, rfl, ?_⟩
  rw [← funext (SlugMap.find?_ofList metrics), ← funext (SlugMap.find?_ofList dimensions),
    ← funext (SlugMap.find?_ofList lenses)]
  exact ⟨(Catalog.ofLists metrics dimensions lenses).itemized p lens⟩

/-- A metric that cannot stand beside itself, and a pair that is declared from both sides. -/
example :
    ((Catalog.ofLists
      [{ slug := "sales", expression := ⟨"SUM(net)", true⟩, table := ⟨"daily", true⟩
         incompatible := ["orders", "orders"] },
        { slug := "orders", expression := ⟨"COUNT(*)", true⟩, table := ⟨"daily", true⟩
          incompatible := ["sales", "orders"] }] [] []).verdict
      { metrics := ["orders", "ghost", "sales", "ghost"] } none).errors =
      ["Unknown metric: ghost", "Metric 'orders' is incompatible with 'sales'",
        "Metric 'orders' is incompatible with 'orders'"] := by
  decide +kernel

end MetricQuery
