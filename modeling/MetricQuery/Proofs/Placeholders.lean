import MetricQuery.Proofs.QuerySources
import MetricQuery.Proofs.Segments

/-!
# Placeholders and parameters

**Theorem (`placeholders_line_up`).** If no text that a query takes from its registry, its settings
and its sort keys holds a `%(` or a `$` before a digit, then the placeholders of the query, read
from left to right, are `$1` to `$n`, one for each parameter. The parameters fall into segments, one
for each predicate and the limit last, and the placeholders of a predicate are those of its segment.

The scanner `placeholders` does not know how a statement is written. It finds in written pieces
what their holes were numbered with, because no text before, between or after holes takes part in a
placeholder (`placeholders_numbered`).
-/

namespace MetricQuery

open Sql

namespace Sql

/-! ## Scanning -/

/-- The placeholders in a text, from left to right: a `$` with all the digits after it, if any. -/
def placeholders : List Char → List (List Char)
  | [] => []
  | c :: cs =>
    if c = '$' ∧ cs.head?.any Char.isDigit = true then
      (c :: cs.takeWhile Char.isDigit) :: placeholders cs
    else placeholders cs

/-- The two characters do not begin a placeholder. -/
def OpensNoNumber (a b : Char) : Prop := ¬ (a = '$' ∧ b.isDigit = true)

instance : DecidableRel OpensNoNumber := fun _ _ => inferInstanceAs (Decidable (¬ _))

/-- A text without a `$` before a digit. -/
abbrev NumberFree (cs : List Char) : Prop := cs.IsChain OpensNoNumber

theorem local_opensNoNumber : Local OpensNoNumber where
  quiet c hc y h := by simp [isQuiet, h.1] at hc
  closed c _ hc _ h := by simp [hc] at h

/-- Text that begins no placeholder, also at its border to the text after it, is passed over. -/
theorem placeholders_text {cs rest : List Char} (h : NumberFree (cs ++ rest.head?.toList)) :
    placeholders (cs ++ rest) = placeholders rest := by
  induction cs with
  | nil => rfl
  | cons c cs ih =>
    have hnext : ¬ (c = '$' ∧ (cs ++ rest).head?.any Char.isDigit = true) := by
      rintro ⟨hc, hhead⟩
      cases cs with
      | nil =>
        cases hrest : rest.head? with
        | none => simp [hrest] at hhead
        | some d =>
          have hd : d.isDigit = true := by simpa [hrest] using hhead
          simp [NumberFree, hrest, hc, OpensNoNumber, hd] at h
      | cons d cs =>
        have hd : d.isDigit = true := by simpa using hhead
        simp [NumberFree, hc, OpensNoNumber, hd] at h
    rw [List.cons_append, placeholders, if_neg hnext]
    exact ih h.tail

theorem placeholders_placeholder (before : Nat) {rest : List Char}
    (h : ∀ c ∈ rest.head?, c.isDigit = false) :
    placeholders (placeholder before ++ rest) = placeholder before :: placeholders rest := by
  have hdigits : ∀ c ∈ (toString (before + 1)).toList, c.isDigit = true := fun _ =>
    isDigit_of_mem_number
  have hquiet : (toString (before + 1)).toList.all isQuiet = true := by
    refine List.all_eq_true.2 fun c hc => ?_
    have hc' := hdigits c hc
    by_contra hloud
    have hmark : c = '%' ∨ c = '$' := by
      simp only [isQuiet, Bool.and_eq_true, bne_iff_ne, not_and_or, not_not] at hloud
      exact hloud
    rcases hmark with rfl | rfl <;> exact absurd hc' (by decide)
  have hfree : NumberFree ((toString (before + 1)).toList ++ rest.head?.toList) := by
    refine (local_opensNoNumber.lead hquiet).2 ?_
    cases rest.head? <;> simp
  have hfirst : ((toString (before + 1)).toList ++ rest).head?.any Char.isDigit = true := by
    cases hnumber : (toString (before + 1)).toList with
    | nil => simp at hnumber
    | cons d ds => simpa using hdigits d (by rw [hnumber]; exact List.mem_cons_self)
  -- The scanner takes all digits, so what follows must not go on with one.
  have hall : ((toString (before + 1)).toList ++ rest).takeWhile Char.isDigit =
      (toString (before + 1)).toList := by
    rw [List.takeWhile_append_of_pos hdigits]
    cases rest with
    | nil => simp
    | cons c rest => simp [h c rfl]
  rw [placeholder, List.cons_append, placeholders, if_pos ⟨rfl, hfirst⟩, hall,
    placeholders_text hfree]

/-- The scanner finds the numbers of the holes. -/
theorem placeholders_numbered {ps : List Piece} (h : NumberFree (Piece.skeleton ps))
    (before : Nat) : placeholders (Piece.numbered before ps) =
      (List.range' before (Piece.values ps).length).map placeholder := by
  induction ps generalizing before with
  | nil => rfl
  | cons p ps ih =>
    cases p with
    | text s =>
      obtain ⟨hs, hps, hborder⟩ := List.isChain_append.1 h
      have htext : NumberFree (s.toList ++ (Piece.numbered before ps).head?.toList) := by
        rw [Piece.head?_numbered]
        refine List.isChain_append.2 ⟨hs, ?_, by simpa using hborder⟩
        cases (Piece.skeleton ps).head? <;> simp
      rw [Piece.numbered, placeholders_text htext, ih hps before]
      rfl
    | hole stem v =>
      have hnext : ∀ c ∈ (Piece.numbered (before + 1) ps).head?, c.isDigit = false := by
        intro c hc
        rw [Piece.head?_numbered] at hc
        have := (List.isChain_cons.1 h).1 c hc
        simpa [OpensNoNumber] using this
      rw [Piece.numbered, placeholders_placeholder before hnext, ih h.tail, Piece.values,
        List.length_cons, List.range'_succ, List.map_cons]

/-- The placeholders of parts, one part after the other, count on from `before`. -/
def Numbered (before : Nat) : List Part → Prop
  | [] => True
  | p :: rest =>
    placeholders p.text = (List.range' before p.values.length).map placeholder ∧
      Numbered (before + p.values.length) rest

theorem numbered_parts {pss : List (List Piece)}
    (h : ∀ ps ∈ pss, NumberFree (Piece.skeleton ps)) (before : Nat) :
    Numbered before (Piece.parts before pss) := by
  induction pss generalizing before with
  | nil => trivial
  | cons ps pss ih =>
    exact ⟨placeholders_numbered (h ps List.mem_cons_self) before,
      ih (fun qs hqs => h qs (List.mem_cons_of_mem ps hqs)) _⟩

end Sql

/-! ## Segments -/

/-- A text that neither begins a hole nor takes part in a placeholder. -/
def Plain (t : String) : Prop := HoleFree t.toList ∧ NumberFree t.toList

instance : DecidablePred Plain := fun _ => inferInstanceAs (Decidable (_ ∧ _))

/-- The placeholders of a query and its parameters, segment by segment. -/
structure LinedUp (settings : Settings) (request : Request) (verdict : Verdict) (q : Query)
    (days : Option (Date × Date)) (texts : List String) (filters : List Part) : Prop where
  /-- The placeholders are `$1` to `$n`, one for each parameter. -/
  placeholders : placeholders q.sql.toList = (List.range q.params.length).map placeholder
  reads : Option.Rel DateRange.ReadsAs request.plan.dateRange days
  distinct : FirstOccurrences texts (metricTexts verdict.metrics)
  written : List.Forall₂ Writes (retained verdict.dimensions request.plan.filters) filters
  text : q.sql.toList = q.statement.opening ++
    " AND ".toList.intercalate ((leadingParts settings request q.primaryTable verdict days texts ++
      filters).map Part.text) ++
    q.statement.closing ++ placeholder (q.params.length - 1)
  params : q.params = (leadingParts settings request q.primaryTable verdict days texts ++
    filters).flatMap Part.values ++ [.int q.statement.limit]
  /-- The placeholders in each part are those of its values. -/
  numbered : Numbered 0 (leadingParts settings request q.primaryTable verdict days texts ++ filters)
  limit : q.limit = some q.statement.limit
  bounds : 1 ≤ q.statement.limit ∧ q.statement.limit ≤ settings.maxRows

theorem Settings.Valid.rowLimit_bounds {settings : Settings} (h : settings.Valid)
    (requested : Option Int) :
    1 ≤ rowLimit requested settings.defaultRows settings.maxRows ∧
      rowLimit requested settings.defaultRows settings.maxRows ≤ settings.maxRows := by
  obtain ⟨-, hdefault, hmost⟩ := h
  unfold rowLimit
  split <;> omega

/-- **Placeholders line up.** -/
theorem placeholders_line_up {registry : Registry} {settings : Settings} {request : Request}
    {q : Query} {verdict : Verdict} (hmade : (compile registry settings request).outcome = .ok q)
    (hanswer : (registry.consult request.plan request.lens).answer = .ok verdict)
    (hvalid : settings.Valid) (hplain : ∀ t ∈ querySources settings request verdict, Plain t) :
    ∃ days texts filters, LinedUp settings request verdict q days texts filters := by
  obtain ⟨c⟩ := exists_compilation hmade
  obtain ⟨r⟩ := c.restricted_conditions
  obtain rfl := c.verdict_eq hanswer
  obtain ⟨filters, hparts, hfilters⟩ := r.parts_eq
  have hsources : ∀ t ∈ q.statement.sources, Plain t := fun t ht => hplain t (c.source_mem ht)
  have hfree : NumberFree (Piece.skeleton q.statement.pieces) :=
    Statement.chain_skeleton local_opensNoNumber fun t ht => (hsources t ht).2
  have hcondition : q.statement.parts = leadingParts settings request q.primaryTable c.verdict
      r.days (r.fragments.map Fragment.text) ++ filters := by
    rw [Statement.parts, c.conditions_eq, c.primaryTable_eq, hparts]
  have hparams := hcondition ▸ q.statement.params_eq
  have htext := Statement.text_eq fun t ht => (hsources t ht).1
  rw [Statement.conditionText, hcondition] at htext
  refine ⟨r.days, r.fragments.map Fragment.text, filters, {
    placeholders := ?_
    reads := r.reads
    distinct := r.distinct
    written := hfilters
    text := htext
    params := hparams
    numbered := ?_
    limit := ?_
    bounds := ?_ }⟩
  · have hnumbered := Statement.text_eq_numbered
      (Statement.chain_skeleton local_opensNoHole fun t ht => (hsources t ht).1)
    rw [Query.sql, hnumbered, placeholders_numbered hfree, List.range_eq_range']
    rfl
  · rw [← hcondition]
    refine numbered_parts (fun ps hps => ?_) 0
    obtain ⟨p, hp, rfl⟩ := List.mem_map.1 hps
    apply local_opensNoNumber.chain_predicate
    exact (hsources p.source (Statement.source_mem_sources hp)).2
  · have hlimit := congrArg Query.toOutline c.made
    rw [c.limit_eq, congrArg Outline.limit hlimit]
  · rw [c.limit_eq]
    exact hvalid.rowLimit_bounds request.plan.limit

theorem placeholders_line_up_sample :
    ∃ q days texts filters,
      (compile (.constant (.ok sampleVerdict)) {} sampleRequest).outcome = .ok q ∧
        ((Registry.constant (.ok sampleVerdict)).consult sampleRequest.plan
          sampleRequest.lens).answer = .ok sampleVerdict ∧
        ({} : Settings).Valid ∧ (∀ t ∈ querySources {} sampleRequest sampleVerdict, Plain t) ∧
        LinedUp {} sampleRequest sampleVerdict q days texts filters := by
  obtain ⟨q, hq⟩ := exists_sampleQuery
  have hvalid : ({} : Settings).Valid := ⟨by decide, by decide, by decide⟩
  have hplain : ∀ t ∈ querySources {} sampleRequest sampleVerdict, Plain t := by decide
  have hanswer : ((Registry.constant (.ok sampleVerdict)).consult sampleRequest.plan
      sampleRequest.lens).answer = .ok sampleVerdict := rfl
  obtain ⟨days, texts, filters, h⟩ := placeholders_line_up hq hanswer hvalid hplain
  exact ⟨q, days, texts, filters, hq, hanswer, hvalid, hplain, h⟩

end MetricQuery
