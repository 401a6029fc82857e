import MetricQuery.Proofs.Restriction
import MetricQuery.Registry
import Mathlib.Data.List.Induction

/-!
# What a plan selects from a catalog

A catalog goes by the last definition of each slug (`SlugMap.find?_ofList`). A plan selects the
active ones among the definitions of its slugs, each once.

**Theorem (`firstOccurrences_selected`).** If every slug has an active definition, then the slugs of
what is selected are the distinct slugs of the plan, in the order in which they first occur.

Metrics and dimensions are selected in one way, so `SlugMap.selected` says it for both.
-/

namespace MetricQuery

open HasSlug

section SlugMap

variable {α : Type} [HasSlug α]

/-- The last of these definitions that has the slug. -/
def lastWith (l : List α) (s : String) : Option α := l.reverse.find? fun a => slug a == s

theorem mem_of_lastWith {l : List α} {s : String} {a : α} (h : lastWith l s = some a) : a ∈ l :=
  List.mem_reverse.1 (List.mem_of_find?_eq_some h)

namespace SlugMap

/-! ## Last definitions -/

/-- What is put in is found under its slug, and hides nothing else. -/
theorem find?_put (a : α) (l : List α) (s : String) :
    (put a l).find? (fun b => slug b == s) =
      if slug a = s then some a else l.find? fun b => slug b == s := by
  induction l with
  | nil => by_cases ha : slug a = s <;> simp [put, ha]
  | cons b l ih =>
    by_cases hput : slug b = slug a
    · rw [put, if_pos hput]
      by_cases ha : slug a = s
      · simp [ha]
      · simp [hput, ha]
    · rw [put, if_neg hput]
      by_cases hb : slug b = s
      · have ha : slug a ≠ s := fun ha => hput (hb.trans ha.symm)
        simp [hb, ha]
      · simp [hb, ih]

theorem entries_ofList_append_singleton (l : List α) (a : α) :
    (ofList (l ++ [a])).entries = put a (ofList l).entries := by
  simp [ofList, insert]

/-- The last definition wins. -/
theorem find?_ofList (l : List α) (s : String) : (ofList l).find? s = lastWith l s := by
  induction l using List.reverseRecOn with
  | nil => rfl
  | append_singleton l a ih =>
    rw [find?, entries_ofList_append_singleton, find?_put]
    rw [find?] at ih
    by_cases ha : slug a = s
    · simp [lastWith, ha]
    · simpa [lastWith, ha] using ih

/-! ## Selections -/

variable (m : SlugMap α) (active : α → Bool)

/-- The active definitions of these slugs, each once. -/
def selected (slugs : List String) : List α :=
  slugs.eraseDups.filterMap fun s => (m.find? s).filter active

variable {m active}

theorem mem_selected {slugs : List String} {a : α} :
    a ∈ m.selected active slugs ↔
      slug a ∈ slugs ∧ m.find? (slug a) = some a ∧ active a = true := by
  simp only [selected, List.mem_filterMap, List.mem_eraseDups, Option.filter_eq_some_iff]
  constructor
  · rintro ⟨s, hs, hfind, ha⟩
    obtain rfl := slug_of_find? hfind
    exact ⟨hs, hfind, ha⟩
  · rintro ⟨hs, hfind, ha⟩
    exact ⟨slug a, hs, hfind, ha⟩

theorem mem_of_mem_selected {l : List α} {slugs : List String} {a : α}
    (h : a ∈ (ofList l).selected active slugs) : a ∈ l := by
  have hfind := (mem_selected.1 h).2.1
  rw [find?_ofList] at hfind
  exact mem_of_lastWith hfind

/-- If every slug has an active definition, no slug is lost. -/
theorem map_slug_selected {slugs : List String}
    (h : ∀ s ∈ slugs, ∃ a, m.find? s = some a ∧ active a = true) :
    (m.selected active slugs).map slug = slugs.eraseDups := by
  have hone : ∀ s ∈ slugs.eraseDups, ((m.find? s).filter active).map slug = some s := by
    intro s hs
    obtain ⟨a, hfind, ha⟩ := h s (List.mem_eraseDups.1 hs)
    simp [hfind, ha, slug_of_find? hfind]
  rw [selected, List.map_filterMap, List.filterMap_congr hone, List.filterMap_some]

theorem slug_mem_selected {slugs : List String}
    (h : ∀ s ∈ slugs, ∃ a, m.find? s = some a ∧ active a = true) {s : String} :
    s ∈ (m.selected active slugs).map slug ↔ s ∈ slugs := by
  rw [map_slug_selected h, List.mem_eraseDups]

/-- What is said of all that is selected is said of the definitions of all slugs. -/
theorem forall_selected {slugs : List String}
    (h : ∀ s ∈ slugs, ∃ a, m.find? s = some a ∧ active a = true) {P : α → Prop} :
    (∀ a ∈ m.selected active slugs, P a) ↔ ∀ s ∈ slugs, ∀ a, m.find? s = some a → P a := by
  constructor
  · intro hall s hs a hfind
    obtain ⟨b, hfind', hactive⟩ := h s hs
    obtain rfl := Option.some.inj (hfind.symm.trans hfind')
    obtain rfl := slug_of_find? hfind
    exact hall a (mem_selected.2 ⟨hs, hfind, hactive⟩)
  · intro hall a ha
    obtain ⟨hs, hfind, -⟩ := mem_selected.1 ha
    exact hall (slug a) hs a hfind

theorem firstOccurrences_selected {slugs : List String}
    (h : ∀ s ∈ slugs, ∃ a, m.find? s = some a ∧ active a = true) :
    FirstOccurrences ((m.selected active slugs).map slug) slugs := by
  rw [map_slug_selected h]
  exact firstOccurrences_eraseDups slugs

end SlugMap

end SlugMap

namespace Catalog

variable (c : Catalog) (p : Plan)

theorem selectedMetrics_eq : c.selectedMetrics p = c.metrics.selected Metric.active p.metrics := rfl

theorem selectedDimensions_eq :
    c.selectedDimensions p = c.dimensions.selected Dimension.active p.dimensions := rfl

end Catalog

end MetricQuery
