import MetricQuery.Catalog.Definition

/-!
# Definitions by slug

A `SlugMap` holds at most one entry for each slug, in order of first appearance. An entry put in
under a slug already there takes the other's place, so the last definition wins and keeps the first
one's position.
-/

namespace MetricQuery

/-- Things known by a slug. -/
class HasSlug (α : Type) where
  slug : α → String

instance : HasSlug Metric := ⟨Metric.slug⟩
instance : HasSlug Dimension := ⟨Dimension.slug⟩
instance : HasSlug Lens := ⟨Lens.slug⟩

open HasSlug

/-- Entries with distinct slugs, in order. -/
structure SlugMap (α : Type) [HasSlug α] where
  entries : List α
  distinct : (entries.map slug).Nodup

namespace SlugMap

variable {α : Type} [HasSlug α]

/-- Puts an entry in the place of the one with its slug, or at the end. -/
def put (a : α) : List α → List α
  | [] => [a]
  | b :: rest => if slug b = slug a then a :: rest else b :: put a rest

theorem mem_slugs_put {a : α} {s : String} :
    ∀ {l : List α}, s ∈ (put a l).map slug ↔ s = slug a ∨ s ∈ l.map slug
  | [] => by simp [put]
  | b :: rest => by
    by_cases h : slug b = slug a
    · simp [put, h]
    · simp only [put, h, if_false, List.map_cons, List.mem_cons, mem_slugs_put]
      exact or_left_comm

theorem nodup_slugs_put {a : α} :
    ∀ {l : List α}, (l.map slug).Nodup → ((put a l).map slug).Nodup
  | [], _ => by simp [put]
  | b :: rest, h => by
    have hb := List.nodup_cons.1 h
    by_cases hs : slug b = slug a
    · simpa [put, hs] using h
    · simp only [put, if_neg hs, List.map_cons, List.nodup_cons, mem_slugs_put, not_or]
      exact ⟨⟨hs, hb.1⟩, nodup_slugs_put hb.2⟩

def empty : SlugMap α := ⟨[], List.nodup_nil⟩

def insert (m : SlugMap α) (a : α) : SlugMap α := ⟨put a m.entries, nodup_slugs_put m.distinct⟩

/-- All of these definitions, put in one after the other. -/
def ofList (l : List α) : SlugMap α := l.foldl insert empty

/-- The definition of a slug. -/
def find? (m : SlugMap α) (s : String) : Option α := m.entries.find? fun a => slug a == s

def contains (m : SlugMap α) (s : String) : Bool := (m.find? s).isSome

/-- The definition found has the slug looked for. -/
theorem slug_of_find? {m : SlugMap α} {s : String} {a : α} (h : m.find? s = some a) :
    slug a = s := by
  simpa using List.find?_some h

end SlugMap

end MetricQuery
