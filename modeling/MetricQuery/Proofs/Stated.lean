import MetricQuery.Proofs.Compilation

/-!
# Filters that can be stated

A filter on a resolved dimension becomes a predicate, unless its operands do not allow it: a truth
value has no place in an order, and a number that is too long is not written out into a pattern
(`Condition.FailsWith`).

**Theorem (`Restriction.ofFilters_cases`).** All filters on resolved dimensions are stated, or the
first of them that cannot be decides how the compilation fails (`StopsAt`).
-/

namespace MetricQuery

open Sql

/-! ## Conditions -/

namespace Condition

/-- Why a condition cannot be stated, if it cannot. -/
inductive FailsWith : Condition → Failure → Prop
  | atLeast {o : Operand} {b : Bool} (h : o.value = .bool b) : FailsWith (.atLeast o) .unordered
  | atMost {o : Operand} {b : Bool} (h : o.value = .bool b) : FailsWith (.atMost o) .unordered
  | contains {o : Operand} (h : o.value.HoldsLong) : FailsWith (.contains o) .unwritten

theorem FailsWith.unique {c : Condition} {x y : Failure} (h : c.FailsWith x) (h' : c.FailsWith y) :
    x = y := by
  cases h <;> cases h' <;> rfl

theorem FailsWith.eq_or {c : Condition} {x : Failure} (h : c.FailsWith x) :
    x = .unordered ∨ x = .unwritten := by
  cases h <;> simp

theorem ordered_cases (s : Subject) (c : Comparison) (o : Operand) :
    ((∀ b, o.value ≠ .bool b) ∧
        ∃ p, predicate.ordered (Predicate.inequality? s c o.value) = .ok p) ∨
      (∃ b, o.value = .bool b) ∧
        predicate.ordered (Predicate.inequality? s c o.value) = .error .unordered := by
  obtain ⟨v, hv⟩ := o
  cases v with
  | null => simp [Json.isNull] at hv
  | bool b => exact .inr ⟨⟨b, rfl⟩, rfl⟩
  | _ => exact .inl ⟨by simp, _, rfl⟩

theorem contains_eq_ok_iff {s : Subject} {o : Operand} {p : Predicate} :
    (contains o).predicate s = .ok p ↔
      o.value.isWritable = true ∧ .like s (containsPattern o.value.display) = p := by
  rw [predicate]
  split_ifs with h <;> simp [h]

/-- A condition is stated unless it cannot be. -/
theorem predicate_cases (s : Subject) (c : Condition) :
    ((∀ x, ¬ c.FailsWith x) ∧ ∃ p, c.predicate s = .ok p) ∨
      ∃ x, c.FailsWith x ∧ c.predicate s = .error x := by
  cases c with
  | atLeast o =>
    obtain ⟨hno, hok⟩ | ⟨⟨b, hb⟩, herror⟩ := ordered_cases s .atLeast o
    · refine .inl ⟨?_, hok⟩
      intro x h
      cases h with
      | atLeast hb => exact hno _ hb
    · exact .inr ⟨.unordered, .atLeast hb, herror⟩
  | atMost o =>
    obtain ⟨hno, hok⟩ | ⟨⟨b, hb⟩, herror⟩ := ordered_cases s .atMost o
    · refine .inl ⟨?_, hok⟩
      intro x h
      cases h with
      | atMost hb => exact hno _ hb
    · exact .inr ⟨.unordered, .atMost hb, herror⟩
  | contains o =>
    cases hw : o.value.isWritable with
    | true =>
      refine .inl ⟨?_, _, contains_eq_ok_iff.2 ⟨hw, rfl⟩⟩
      intro x h
      cases h with
      | contains hlong => simp [Json.isWritable_eq_false_iff.2 hlong] at hw
    | false =>
      refine .inr ⟨.unwritten, .contains (Json.isWritable_eq_false_iff.1 hw), ?_⟩
      simp [predicate, hw]
  | equals _ | oneOf _ | between _ _ =>
    refine .inl ⟨?_, _, rfl⟩
    rintro x ⟨⟩

end Condition

/-! ## Lists of filters -/

/-- Of the filters on these dimensions, the first that cannot be stated fails in this way. -/
inductive StopsAt (slugs : List String) : List Filter → Failure → Prop
  | here {f : Filter} {fs : List Filter} {x : Failure} (hslug : f.slug ∈ slugs)
      (h : f.condition.FailsWith x) : StopsAt slugs (f :: fs) x
  | later {f : Filter} {fs : List Filter} {x : Failure}
      (hpass : f.slug ∈ slugs → ∀ y, ¬ f.condition.FailsWith y) (rest : StopsAt slugs fs x) :
      StopsAt slugs (f :: fs) x

namespace StopsAt

variable {slugs : List String} {filters : List Filter} {x y : Failure}

theorem unique (h : StopsAt slugs filters x) (h' : StopsAt slugs filters y) : x = y := by
  induction h with
  | here hslug hfails =>
    cases h' with
    | here _ hfails' => exact hfails.unique hfails'
    | later hpass _ => exact absurd hfails (hpass hslug _)
  | later hpass _ ih =>
    cases h' with
    | here hslug hfails' => exact absurd hfails' (hpass hslug _)
    | later _ rest' => exact ih rest'

theorem exists_iff : (∃ x, StopsAt slugs filters x) ↔
    ∃ f ∈ filters, f.slug ∈ slugs ∧ ∃ x, f.condition.FailsWith x := by
  induction filters with
  | nil =>
    constructor
    · rintro ⟨x, ⟨⟩⟩
    · simp
  | cons f filters ih =>
    rw [List.exists_mem_cons_iff, ← ih]
    constructor
    · rintro ⟨x, _ | _⟩
      · next hslug hfails => exact .inl ⟨hslug, x, hfails⟩
      · next rest => exact .inr ⟨x, rest⟩
    · rintro (⟨hslug, x, hfails⟩ | ⟨x, rest⟩)
      · exact ⟨x, .here hslug hfails⟩
      · by_cases hstops : f.slug ∈ slugs ∧ ∃ y, f.condition.FailsWith y
        · obtain ⟨hslug, y, hfails⟩ := hstops
          exact ⟨y, .here hslug hfails⟩
        · exact ⟨x, .later (fun hslug y hfails => hstops ⟨hslug, y, hfails⟩) rest⟩

/-- It is the same for lists of the same slugs. -/
theorem of_slugs {slugs' : List String} (hslugs : ∀ s, s ∈ slugs ↔ s ∈ slugs')
    (h : StopsAt slugs filters x) : StopsAt slugs' filters x := by
  induction h with
  | here hslug hfails => exact .here ((hslugs _).1 hslug) hfails
  | later hpass _ ih => exact .later (fun hslug => hpass ((hslugs _).2 hslug)) ih

/-- Filters fail in two ways, and neither has a code. -/
theorem eq_or (h : StopsAt slugs filters x) : x = .unordered ∨ x = .unwritten := by
  induction h with
  | here _ hfails => exact hfails.eq_or
  | later _ _ ih => exact ih

end StopsAt

/-! ## Selections -/

/-- The slugs of the dimensions. -/
def Selection.slugs (s : Selection) : List String := s.dimensions.map fun d => d.dimension.slug

theorem Selection.find?_eq_none_iff {s : Selection} {slug : String} :
    s.find? slug = none ↔ slug ∉ s.slugs := by
  simp only [find?, slugs, List.find?_eq_none, List.mem_reverse, beq_iff_eq, List.mem_map,
    not_exists, not_and]

theorem Selection.Resolves.slugs_eq {s : Selection} {primary : String} {metrics : List Metric}
    {dimensions : List Dimension} (h : s.Resolves primary metrics dimensions) :
    s.slugs = dimensions.map Dimension.slug := by
  rw [← h.dimensions, List.map_map]
  rfl

namespace Restriction

theorem ofFilters_cases (selection : Selection) (filters : List Filter) :
    ((∀ x, ¬ StopsAt selection.slugs filters x) ∧
        ∃ ps, ofFilters selection filters = .ok ps) ∨
      ∃ x, StopsAt selection.slugs filters x ∧ ofFilters selection filters = .error x := by
  induction filters with
  | nil =>
    refine .inl ⟨?_, [], rfl⟩
    rintro x ⟨⟩
  | cons f filters ih =>
    cases hfind : selection.find? f.slug with
    | none =>
      have hslug := Selection.find?_eq_none_iff.1 hfind
      have hkept : ofFilters selection (f :: filters) = ofFilters selection filters := by
        simp [ofFilters, kept, hfind]
      rw [hkept]
      obtain ⟨hnone, hok⟩ | ⟨x, hstops, herror⟩ := ih
      · refine .inl ⟨?_, hok⟩
        rintro x (_ | _)
        · contradiction
        · next rest => exact hnone x rest
      · exact .inr ⟨x, .later (fun h => absurd h hslug) hstops, herror⟩
    | some d =>
      have hslug : f.slug ∈ selection.slugs := by
        by_contra hnot
        simp [Selection.find?_eq_none_iff.2 hnot] at hfind
      have hkept : ofFilters selection (f :: filters) =
          f.condition.predicate (.fragment d.expression) >>= fun p =>
            ofFilters selection filters >>= fun ps => .ok (p :: ps) := by
        simp [ofFilters, kept, hfind, List.mapM_cons]
        rfl
      rw [hkept]
      obtain ⟨hpass, p, hp⟩ | ⟨x, hfails, herror⟩ :=
        f.condition.predicate_cases (.fragment d.expression)
      · rw [hp]
        obtain ⟨hnone, ps, hps⟩ | ⟨x, hstops, herror⟩ := ih
        · refine .inl ⟨?_, p :: ps, by rw [hps]; rfl⟩
          rintro x (_ | _)
          · next hfails => exact hpass x hfails
          · next rest => exact hnone x rest
        · exact .inr ⟨x, .later (fun _ => hpass) hstops, by rw [herror]; rfl⟩
      · exact .inr ⟨x, .here hslug hfails, by rw [herror]; rfl⟩

theorem failure_of_ofFilters {selection : Selection} {filters : List Filter} {x : Failure}
    (h : ofFilters selection filters = .error x) : x = .unordered ∨ x = .unwritten := by
  obtain ⟨-, ps, hps⟩ | ⟨y, hstops, herror⟩ := ofFilters_cases selection filters
  · simp [hps] at h
  · obtain rfl := Except.error.inj (herror.symm.trans h)
    exact hstops.eq_or

end Restriction

end MetricQuery
