import MetricQuery.Proofs.Restriction

/-!
# The condition of a query in segments

**Theorem (`Restricted.parts_eq`).** Written with its placeholders numbered, the condition of a
query is the tenant's predicate, then the location's and the range of dates if there are any, then
the conditions of metrics, then a part for each kept filter.
-/

namespace MetricQuery

open Sql

/-! ## Parts of a condition -/

/-- What relates kept filters to their predicates relates them to the parts. -/
theorem Sql.forall₂_parts {α : Type} {R : α → Predicate → Prop} {S : α → Part → Prop}
    (hS : ∀ a p before, R a p → S a ⟨Piece.numbered before p.pieces, Piece.values p.pieces⟩)
    {l : List α} {ps : List Predicate} (h : l.Forall₂ R ps) (before : Nat) :
    l.Forall₂ S (Piece.parts before (ps.map Predicate.pieces)) := by
  induction h generalizing before with
  | nil => exact .nil
  | cons hap _ ih => exact .cons (hS _ _ _ hap) (ih _)

/-- The parts of a condition that are no filters, with the placeholders that are their own. -/
def leadingParts (settings : Settings) (request : Request) (primary : String) (verdict : Verdict)
    (days : Option (Date × Date)) (texts : List String) : List Part :=
  let scope : List Part :=
    ⟨(identifier settings.tenantColumn ++ " = $1").toList, [.str request.tenant]⟩ ::
      request.location.toList.map fun l =>
        ⟨(identifier settings.locationColumn ++ " = $2").toList, [.str l]⟩
  let time := timeText settings.timeColumn primary verdict.dimensions
  scope ++
    (days.toList.map fun d =>
      ⟨(time ++ " BETWEEN ").toList ++ placeholder scope.length ++ " AND ".toList ++
        placeholder (scope.length + 1), [.str d.1.iso, .str d.2.iso]⟩) ++
    texts.map fun t => ⟨("(" ++ t ++ ")").toList, []⟩

/-- A part writes the condition of a kept filter about the expression of its dimension, and its
values are those that the condition binds. -/
def Writes (k : Filter × Dimension) (p : Part) : Prop :=
  ∃ pieces before, p = ⟨Piece.numbered before pieces, Piece.values pieces⟩ ∧
    Piece.skeleton pieces = (k.1.condition.wording k.2.expression.text).toList ∧
    Piece.values pieces = k.1.condition.bound

theorem writes_of_states {k : Filter × Dimension} {p : Predicate} (h : States k p) (before : Nat) :
    Writes k ⟨Piece.numbered before p.pieces, Piece.values p.pieces⟩ := by
  obtain ⟨f, hf, hp⟩ := h
  have hwritten : p.written = ((k.1.condition.wording f.text).toList, k.1.condition.bound) :=
    written_predicate hp
  rw [Fragment.text, hf] at hwritten
  exact ⟨p.pieces, before, rfl, congrArg Prod.fst hwritten, congrArg Prod.snd hwritten⟩

/-! ## Single predicates -/

theorem numbered_compare (s : Subject) (c : Comparison) (v : Json) (before : Nat) :
    Piece.numbered before (Predicate.compare s c v).pieces =
      (s.text ++ c.symbol).toList ++ placeholder before := by
  simp [Predicate.pieces, Piece.numbered]

theorem numbered_equal (column : String) (v : Json) (before : Nat) :
    Piece.numbered before (Predicate.compare (.column column) .equal v).pieces =
      (identifier column ++ " = ").toList ++ placeholder before := numbered_compare _ _ v before

theorem values_equal (column : String) (v : Json) :
    Piece.values (Predicate.compare (.column column) .equal v).pieces = [v] := rfl

theorem numbered_between (s : Subject) (low high : Json) (before : Nat) :
    Piece.numbered before (Predicate.between s low high).pieces =
      (s.text ++ " BETWEEN ").toList ++ placeholder before ++ " AND ".toList ++
        placeholder (before + 1) := by
  simp [Predicate.pieces, Piece.numbered]

theorem values_between (s : Subject) (low high : Json) :
    Piece.values (Predicate.between s low high).pieces = [low, high] := rfl

theorem parts_fragments (fs : List Fragment) (before : Nat) :
    Piece.parts before (fs.map (Predicate.pieces ∘ Predicate.fragment)) =
      (fs.map Fragment.text).map fun t => ⟨("(" ++ t ++ ")").toList, []⟩ := by
  induction fs generalizing before with
  | nil => rfl
  | cons f fs ih =>
    simpa [Piece.parts, Predicate.pieces, Piece.numbered, Piece.values] using ih before

/-! ## Whole conditions -/

section Restricted

variable {settings : Settings} {request : Request} {primary : String} {verdict : Verdict}
  {conditions : List Predicate}

/-- The predicates of the filters come last, after some number of placeholders. -/
theorem Restricted.exists_parts_append
    (r : Restricted settings request primary verdict conditions) :
    ∃ before, Piece.parts 0 (conditions.map Predicate.pieces) =
      leadingParts settings request primary verdict r.days (r.fragments.map Fragment.text) ++
        Piece.parts before (r.filters.map Predicate.pieces) := by
  have hconditions := congrArg (fun ps => Piece.parts 0 (ps.map Predicate.pieces)) r.eq
  simp only [List.map_append, Piece.parts_append] at hconditions
  refine ⟨_, hconditions.trans (congrArg (· ++ _) ?_)⟩
  have hfirst : placeholder 0 = "$1".toList := by decide
  have hsecond : placeholder 1 = "$2".toList := by decide
  cases hlocation : request.location <;> cases hdays : r.days <;>
    simp [leadingParts, hlocation, Piece.parts, numbered_equal, values_equal, numbered_between,
      values_between, parts_fragments, hfirst, hsecond, r.time_text]

/-- A condition in parts: its placeholders count on from part to part. -/
theorem Restricted.parts_eq (r : Restricted settings request primary verdict conditions) :
    ∃ filters, Piece.parts 0 (conditions.map Predicate.pieces) =
        leadingParts settings request primary verdict r.days (r.fragments.map Fragment.text) ++
          filters ∧
      List.Forall₂ Writes (retained verdict.dimensions request.plan.filters) filters := by
  obtain ⟨before, hparts⟩ := r.exists_parts_append
  have hfilters := forall₂_parts (R := States) (S := Writes) (fun _ _ b h => writes_of_states h b)
    r.kept before
  exact ⟨_, hparts, hfilters⟩

end Restricted

end MetricQuery
