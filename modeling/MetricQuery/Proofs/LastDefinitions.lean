import MetricQuery.Proofs.Acceptance
import Mathlib.Data.List.Nodup

/-!
# What a catalog holds

A catalog is made of lists of definitions in which slugs may repeat.

**Theorem (`faithful_ofLists`).** Under a slug the catalog finds the last definition given with it,
and nothing where none was given. It lists the slugs whose last definition is active, each once, in
the order in which they first occur, and of one domain those whose last definition is of that
domain. The verdict on a plan agrees: a slug that the plan selects is listed exactly if it is
neither unknown nor inactive there.

What is found comes from the last occurrence of a slug, where it is listed from the first. Both are
read off the entries: those found are the last ones (`find?_ofList`), and their slugs are those of
the list without repetitions (`map_slug_ofList`). For the verdict it remains that no other objection
reads like one about a slug: they all start differently (`Objection.lead`).
-/

namespace MetricQuery

open HasSlug

/-! ## Last definitions -/

section Definitions

variable {α : Type} [HasSlug α] {l : List α} {s : String} {a : α}

/-- `a` is the last of these definitions that has the slug. -/
def IsLast (l : List α) (s : String) (a : α) : Prop :=
  slug a = s ∧ ∃ before after, l = before ++ a :: after ∧ ∀ b ∈ after, slug b ≠ s

theorem lastWith_eq_some_iff : lastWith l s = some a ↔ IsLast l s a := by
  unfold lastWith IsLast
  rw [List.find?_eq_some_iff_append, beq_iff_eq]
  refine and_congr_right fun _ => ?_
  constructor
  · intro ⟨after, before, hl, hafter⟩
    refine ⟨before.reverse, after.reverse, ?_, ?_⟩
    · rw [← List.reverse_reverse l, hl]
      simp
    · intro b hb
      simpa using hafter b (List.mem_reverse.1 hb)
  · intro ⟨before, after, hl, hafter⟩
    refine ⟨after.reverse, before.reverse, ?_, ?_⟩
    · rw [hl]
      simp
    · intro b hb
      simpa using hafter b (List.mem_reverse.1 hb)

theorem lastWith_eq_none_iff : lastWith l s = none ↔ ∀ a ∈ l, slug a ≠ s := by
  simp [lastWith]

/-- Finds the last definition of each slug, and nothing else. -/
structure FindsLast (l : List α) (find? : String → Option α) : Prop where
  found : ∀ s a, find? s = some a ↔ IsLast l s a
  missing : ∀ s, find? s = none ↔ ∀ a ∈ l, slug a ≠ s
  slug_eq : ∀ s a, find? s = some a → slug a = s

/-- The slugs whose last definition counts, each once, in the order in which they first occur. -/
structure Lists (l : List α) (counts : α → Prop) (slugs : List String) : Prop where
  mem : ∀ s, s ∈ slugs ↔ ∃ a, IsLast l s a ∧ counts a
  once : slugs.Nodup
  ordered : slugs.Pairwise fun s t => (l.map slug).idxOf s < (l.map slug).idxOf t

namespace SlugMap

theorem findsLast_ofList (l : List α) : FindsLast l (ofList l).find? where
  found s a := by rw [find?_ofList, lastWith_eq_some_iff]
  missing s := by rw [find?_ofList, lastWith_eq_none_iff]
  slug_eq _ _ := slug_of_find?

/-! ## Positions -/

theorem map_slug_put (a : α) (l : List α) :
    (put a l).map slug =
      if slug a ∈ l.map slug then l.map slug else l.map slug ++ [slug a] := by
  induction l with
  | nil => rfl
  | cons b l ih =>
    by_cases hb : slug b = slug a
    · rw [put, if_pos hb]
      simp [hb]
    · have hne : slug a ≠ slug b := fun h => hb h.symm
      rw [put, if_neg hb, List.map_cons, ih]
      by_cases ha : slug a ∈ l.map slug
      · simp [ha]
      · rw [if_neg ha, List.map_cons, if_neg (by simpa [hne] using ha)]
        rfl

/-- A slug stays where it first occurred. -/
theorem map_slug_ofList (l : List α) :
    (ofList l).entries.map slug = (l.map slug).eraseDups := by
  induction l using List.reverseRecOn with
  | nil => rfl
  | append_singleton l a ih =>
    rw [entries_ofList_append_singleton, map_slug_put, ih, List.map_append, List.map_singleton,
      List.eraseDups_append]
    by_cases ha : slug a ∈ l.map slug
    · have hknown : [slug a].removeAll (l.map slug) = [] := by simpa [List.removeAll] using ha
      rw [if_pos (List.mem_eraseDups.2 ha), hknown, List.eraseDups_nil, List.append_nil]
    · have hnew : [slug a].removeAll (l.map slug) = [slug a] := by simpa [List.removeAll] using ha
      rw [if_neg (fun h => ha (List.mem_eraseDups.1 h)), hnew]
      rfl

/-- The entries of a map are what it finds. -/
theorem mem_entries_iff {m : SlugMap α} : a ∈ m.entries ↔ m.find? (slug a) = some a := by
  constructor
  · intro ha
    cases hfind : m.find? (slug a) with
    | none =>
      have hne := List.find?_eq_none.1 hfind a ha
      simp at hne
    | some b =>
      have hb : b ∈ m.entries := List.mem_of_find?_eq_some hfind
      have hslug : slug b = slug a := slug_of_find? hfind
      rw [List.inj_on_of_nodup_map m.distinct hb ha hslug]
  · exact List.mem_of_find?_eq_some

theorem lists_ofList (l : List α) {counts : α → Prop} {p : α → Bool}
    (hp : ∀ a, p a = true ↔ counts a) :
    Lists l counts (((ofList l).entries.filter p).map slug) := by
  have hsub : (((ofList l).entries.filter p).map slug).Sublist (l.map slug).eraseDups := by
    rw [← map_slug_ofList]
    exact List.filter_sublist.map slug
  have hfirst := firstOccurrences_eraseDups (l.map slug)
  refine ⟨?_, hfirst.nodup.sublist hsub, hfirst.ordered.sublist hsub⟩
  intro s
  simp only [List.mem_map, List.mem_filter, mem_entries_iff, find?_ofList, lastWith_eq_some_iff, hp]
  constructor
  · intro ⟨a, ⟨hlast, hcounts⟩, hs⟩
    exact ⟨a, hs ▸ hlast, hcounts⟩
  · intro ⟨a, hlast, hcounts⟩
    exact ⟨a, ⟨hlast.1 ▸ hlast, hcounts⟩, hlast.1⟩

end SlugMap

end Definitions

/-! ## Texts of objections -/

/-- The text begins like this. -/
def Begins (start text : String) : Prop := start.toList <+: text.toList

theorem begins_append (start rest : String) : Begins start (start ++ rest) := by
  rw [Begins, String.toList_append]
  exact List.prefix_append _ _

theorem Begins.append {start text : String} (h : Begins start text) (more : String) :
    Begins start (text ++ more) := by
  rw [Begins, String.toList_append]
  exact h.trans (List.prefix_append _ _)

namespace Objection

/-- What the text of an objection begins with. -/
def lead : Objection → String
  | unknownMetric _ => "Unknown metric: "
  | inactiveMetric _ => "Metric is inactive: "
  | unknownDimension _ => "Unknown dimension: "
  | inactiveDimension _ => "Dimension is inactive: "
  | missingDimensions .. | incompatible .. | metricOutsideLens .. => "Metric '"
  | unknownLens _ => "Unknown lens: "
  | dimensionOutsideLens .. => "Dimension '"
  | unsuitedOperator .. => "Operator '"
  | unselectedSortKey _ => "Sort key '"

def leads : List String :=
  ["Unknown metric: ", "Metric is inactive: ", "Unknown dimension: ", "Dimension is inactive: ",
    "Metric '", "Unknown lens: ", "Dimension '", "Operator '", "Sort key '"]

theorem lead_mem_leads (o : Objection) : o.lead ∈ leads := by
  cases o <;> simp [lead, leads]

/-- No lead begins like another. -/
theorem eq_of_begins : ∀ s ∈ leads, ∀ t ∈ leads, Begins s t → s = t := by
  simp [leads, Begins]

theorem begins_message (o : Objection) : Begins o.lead o.message := by
  cases o with
  | unknownMetric s | inactiveMetric s | unknownDimension s | inactiveDimension s | unknownLens s =>
    exact begins_append _ s
  | missingDimensions m missing => exact ((begins_append _ m).append _).append _
  | incompatible m other | metricOutsideLens m other | dimensionOutsideLens m other =>
    exact (((begins_append _ m).append _).append other).append _
  | unsuitedOperator operator type d =>
    exact (((begins_append _ operator.name).append _).append type.name).append _
  | unselectedSortKey s => exact (begins_append _ s).append _

theorem lead_eq_of_message_eq {o o' : Objection} (h : o.message = o'.message) :
    o.lead = o'.lead := by
  have hother : Begins o'.lead o.message := h ▸ o'.begins_message
  rcases List.prefix_or_prefix_of_prefix o.begins_message hother with hpre | hpre
  · exact eq_of_begins _ o.lead_mem_leads _ o'.lead_mem_leads hpre
  · exact (eq_of_begins _ o'.lead_mem_leads _ o.lead_mem_leads hpre).symm

/-- The objection is about a slug that has no active definition. -/
def AboutSlug : Objection → Prop
  | unknownMetric _ | inactiveMetric _ | unknownDimension _ | inactiveDimension _ => True
  | _ => False

/-- Objections about slugs are told from all others by their texts. -/
theorem eq_of_message_eq {o o' : Objection} (ho : o.AboutSlug) (h : o'.message = o.message) :
    o' = o := by
  have hlead : o'.lead = o.lead := lead_eq_of_message_eq h
  cases o with
  | unknownMetric s | inactiveMetric s | unknownDimension s | inactiveDimension s =>
    -- Only an objection of the same kind is left, and it differs in its slug at most.
    cases o' <;> simp [lead] at hlead
    exact congrArg _ ((String.append_right_inj _).1 h)
  | _ => exact ho.elim

end Objection

/-! ## Slugs in a verdict -/

namespace Catalog

open Objection

variable {c : Catalog} {p : Plan} {lens : Option String}

theorem metricObjection_eq_some_iff {s : String} {o : Objection} :
    c.metricObjection s = some o ↔
      c.metrics.find? s = none ∧ .unknownMetric s = o ∨
      ∃ m, c.metrics.find? s = some m ∧ m.active = false ∧ .inactiveMetric s = o := by
  unfold metricObjection
  cases c.metrics.find? s with
  | none => simp
  | some m => cases hm : m.active <;> simp [hm]

theorem dimensionObjection_eq_some_iff {s : String} {o : Objection} :
    c.dimensionObjection s = some o ↔
      c.dimensions.find? s = none ∧ .unknownDimension s = o ∨
      ∃ d, c.dimensions.find? s = some d ∧ d.active = false ∧ .inactiveDimension s = o := by
  unfold dimensionObjection
  cases c.dimensions.find? s with
  | none => simp
  | some d => cases hd : d.active <;> simp [hd]

/-! The other rules say nothing of that kind. -/

theorem not_aboutSlug_requirementObjection {selected : List String} {m : Metric} {o : Objection}
    (h : requirementObjection selected m = some o) : ¬ o.AboutSlug := by
  unfold requirementObjection at h
  dsimp only at h
  split at h
  · contradiction
  · obtain rfl := Option.some.inj h
    exact id

theorem not_aboutSlug_lensObjections {slug : String} {o : Objection}
    (h : o ∈ c.lensObjections p slug) : ¬ o.AboutSlug := by
  unfold lensObjections at h
  split at h
  · obtain rfl := List.mem_singleton.1 h
    exact id
  · rcases List.mem_append.1 h with h | h
    · obtain ⟨s, -, rfl⟩ := List.mem_map.1 h
      exact id
    · obtain ⟨s, -, rfl⟩ := List.mem_map.1 h
      exact id

theorem not_aboutSlug_filterObjection {f : Filter} {o : Objection}
    (h : c.filterObjection p f = some o) : ¬ o.AboutSlug := by
  unfold filterObjection at h
  split at h
  · split at h
    · contradiction
    · dsimp only at h
      split at h
      · contradiction
      · obtain rfl := Option.some.inj h
        exact id
  · contradiction

theorem not_aboutSlug_sortObjection {k : SortKey} {o : Objection}
    (h : sortObjection p k = some o) : ¬ o.AboutSlug := by
  unfold sortObjection at h
  split at h
  · contradiction
  · obtain rfl := Option.some.inj h
    exact id

theorem mem_objections_iff {o : Objection} (ho : o.AboutSlug) :
    o ∈ c.objections p lens ↔
      (∃ s ∈ p.metrics, c.metricObjection s = some o) ∨
      ∃ s ∈ p.dimensions, c.dimensionObjection s = some o := by
  simp only [objections, List.mem_append, List.mem_filterMap, List.mem_eraseDups]
  constructor
  · rintro ((((((h | h) | ⟨m, -, h⟩) | h) | h) | ⟨f, -, h⟩) | ⟨k, -, h⟩)
    · exact .inl h
    · exact .inr h
    · exact absurd ho (not_aboutSlug_requirementObjection h)
    · obtain ⟨pair, -, rfl⟩ := List.mem_map.1 h
      exact ho.elim
    · cases lens with
      | none => simp at h
      | some slug => exact absurd ho (not_aboutSlug_lensObjections h)
    · exact absurd ho (not_aboutSlug_filterObjection h)
    · exact absurd ho (not_aboutSlug_sortObjection h)
  · rintro (h | h)
    · simp [h]
    · simp [h]

/-- The errors hold the text of an objection about a slug only if it was made. -/
theorem message_mem_errors_iff (o : Objection) (ho : o.AboutSlug) :
    o.message ∈ (c.verdict p lens).errors ↔
      (∃ s ∈ p.metrics, c.metricObjection s = some o) ∨
      ∃ s ∈ p.dimensions, c.dimensionObjection s = some o := by
  rw [errors_verdict, ← mem_objections_iff ho, List.mem_map]
  constructor
  · intro ⟨o', ho', h⟩
    exact eq_of_message_eq ho h ▸ ho'
  · intro h
    exact ⟨o, h, rfl⟩

theorem unknownMetric_mem_errors {s : String} :
    "Unknown metric: " ++ s ∈ (c.verdict p lens).errors ↔
      s ∈ p.metrics ∧ c.metrics.find? s = none := by
  show (unknownMetric s).message ∈ _ ↔ _
  rw [message_mem_errors_iff (unknownMetric s) trivial]
  simp [metricObjection_eq_some_iff, dimensionObjection_eq_some_iff]

theorem inactiveMetric_mem_errors {s : String} :
    "Metric is inactive: " ++ s ∈ (c.verdict p lens).errors ↔
      s ∈ p.metrics ∧ ∃ m, c.metrics.find? s = some m ∧ m.active = false := by
  show (inactiveMetric s).message ∈ _ ↔ _
  rw [message_mem_errors_iff (inactiveMetric s) trivial]
  simp [metricObjection_eq_some_iff, dimensionObjection_eq_some_iff]

theorem unknownDimension_mem_errors {s : String} :
    "Unknown dimension: " ++ s ∈ (c.verdict p lens).errors ↔
      s ∈ p.dimensions ∧ c.dimensions.find? s = none := by
  show (unknownDimension s).message ∈ _ ↔ _
  rw [message_mem_errors_iff (unknownDimension s) trivial]
  simp [metricObjection_eq_some_iff, dimensionObjection_eq_some_iff]

theorem inactiveDimension_mem_errors {s : String} :
    "Dimension is inactive: " ++ s ∈ (c.verdict p lens).errors ↔
      s ∈ p.dimensions ∧ ∃ d, c.dimensions.find? s = some d ∧ d.active = false := by
  show (inactiveDimension s).message ∈ _ ↔ _
  rw [message_mem_errors_iff (inactiveDimension s) trivial]
  simp [metricObjection_eq_some_iff, dimensionObjection_eq_some_iff]

/-- A slug has an active definition, or else none, or one that is inactive. -/
theorem exists_active_iff {α : Type} {find? : String → Option α} {active : α → Bool} {s : String} :
    (∃ a, find? s = some a ∧ active a = true) ↔
      ¬ find? s = none ∧ ¬ ∃ a, find? s = some a ∧ active a = false := by
  cases find? s <;> simp

end Catalog

/-! ## The catalog of given definitions -/

/-- The catalog goes by the last of these definitions with each slug, and by the first for the order
in which it lists them. -/
structure Catalog.Faithful (c : Catalog) (metrics : List Metric) (dimensions : List Dimension)
    (lenses : List Lens) : Prop where
  finds_metrics : FindsLast metrics c.metrics.find?
  finds_dimensions : FindsLast dimensions c.dimensions.find?
  finds_lenses : FindsLast lenses c.lenses.find?
  lists_metrics : Lists metrics (fun m => m.active = true) (c.metricSlugs none)
  lists_domain : ∀ domain,
    Lists metrics (fun m => m.active = true ∧ m.domain = domain) (c.metricSlugs (some domain))
  domain_sublist : ∀ domain, (c.metricSlugs (some domain)).Sublist (c.metricSlugs none)
  lists_dimensions : Lists dimensions (fun d => d.active = true) c.dimensionSlugs

theorem Catalog.faithful (metrics : List Metric) (dimensions : List Dimension)
    (lenses : List Lens) :
    (ofLists metrics dimensions lenses).Faithful metrics dimensions lenses where
  finds_metrics := SlugMap.findsLast_ofList metrics
  finds_dimensions := SlugMap.findsLast_ofList dimensions
  finds_lenses := SlugMap.findsLast_ofList lenses
  lists_metrics := SlugMap.lists_ofList metrics (by simp)
  lists_domain domain := SlugMap.lists_ofList metrics (by simp)
  domain_sublist domain := by
    refine List.Sublist.map Metric.slug (List.monotone_filter_right _ ?_)
    intro m hm
    obtain ⟨hactive, -⟩ := Bool.and_eq_true_iff.1 hm
    simpa using hactive
  lists_dimensions := SlugMap.lists_ofList dimensions (fun _ => Iff.rfl)

/-- The verdict on a plan names a slug of it as unknown or as inactive, with these texts, exactly if
the slug is not listed. -/
def Verdict.AgreesOn (v : Verdict) (slugs listed : List String) (unknown inactive : String) :
    Prop :=
  ∀ s ∈ slugs, s ∈ listed ↔ unknown ++ s ∉ v.errors ∧ inactive ++ s ∉ v.errors

/-- **Last definitions.** -/
theorem faithful_ofLists (metrics : List Metric) (dimensions : List Dimension)
    (lenses : List Lens) :
    let c := Catalog.ofLists metrics dimensions lenses
    c.Faithful metrics dimensions lenses ∧
    ∀ p lens, ∃ v, (c.registry.consult p lens).answer = .ok v ∧
      v.AgreesOn p.metrics (c.metricSlugs none) "Unknown metric: " "Metric is inactive: " ∧
      v.AgreesOn p.dimensions c.dimensionSlugs "Unknown dimension: " "Dimension is inactive: " := by
  intro c
  have hfaithful := Catalog.faithful metrics dimensions lenses
  refine ⟨hfaithful, fun p lens => ⟨c.verdict p lens, rfl, ?_, ?_⟩⟩
  · intro s hs
    rw [Catalog.unknownMetric_mem_errors, Catalog.inactiveMetric_mem_errors,
      hfaithful.lists_metrics.mem]
    simp only [hs, true_and, ← hfaithful.finds_metrics.found]
    exact Catalog.exists_active_iff
  · intro s hs
    rw [Catalog.unknownDimension_mem_errors, Catalog.inactiveDimension_mem_errors,
      hfaithful.lists_dimensions.mem]
    simp only [hs, true_and, ← hfaithful.finds_dimensions.found]
    exact Catalog.exists_active_iff

/-- A repeated slug keeps its place and changes its domain; one whose last definition is inactive is
not listed. -/
example :
    let total : SqlText := ⟨"SUM(net)", true⟩
    let table : SqlText := ⟨"daily", true⟩
    let c := Catalog.ofLists
      [{ slug := "sales", expression := total, table := table },
        { slug := "hours", expression := total, table := table },
        { slug := "orders", expression := total, table := table },
        { slug := "sales", expression := total, table := table, domain := "golf" },
        { slug := "hours", expression := total, table := table, active := false }] [] []
    c.metricSlugs none = ["sales", "orders"] ∧ c.metricSlugs (some "golf") = ["sales"] := by
  decide +kernel

end MetricQuery
