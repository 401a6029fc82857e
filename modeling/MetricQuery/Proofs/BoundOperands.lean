import MetricQuery.Proofs.Placeholders
import Mathlib.Algebra.GroupWithZero.Nat

/-!
# Operands of filters

The operands of a filter are values of the caller. They are to be parameters of the query, each with
a placeholder of its own.

**Theorem (`exists_bound`).** They are, but for a truth value to be equal to. Any other kept filter
is written with a placeholder for each operand, and the rest of its predicate depends on nothing but
its operator and its dimension. So there are as many parameters as there are operands and fixed
values if no kept filter asks for equality with a truth value, and one less for each that does.

Equality with a truth value is written as `= true` or `= false` and has no parameter: the value of
the caller decides the text of the query (`not_always_bound`).
-/

namespace MetricQuery

open Sql

/-! ## Predicates of filters -/

/-- A comparison of an expression with `count` operands, each a placeholder, numbered after `before`
others. -/
def Operator.clause (e : String) (before count : Nat) : Operator → List Char
  | equals => (e ++ " = ").toList ++ placeholder before
  | oneOf => (e ++ " IN (").toList ++
      ", ".toList.intercalate ((List.range' before count).map placeholder) ++ [')']
  | atLeast => (e ++ " >= ").toList ++ placeholder before
  | atMost => (e ++ " <= ").toList ++ placeholder before
  | between => (e ++ " BETWEEN ").toList ++ placeholder before ++ " AND ".toList ++
      placeholder (before + 1)
  | contains => (e ++ " ILIKE ").toList ++ placeholder before

namespace Condition

/-- The condition asks for equality with a truth value. -/
def writesTruth : Condition → Bool
  | equals o =>
    match o.value with
    | .bool _ => true
    | _ => false
  | _ => false

theorem length_bound_add (c : Condition) :
    c.bound.length + (if c.writesTruth then 1 else 0) = c.operands.length := by
  cases c with
  | equals o =>
    obtain ⟨v, hv⟩ := o
    cases v <;> rfl
  | _ => rfl

end Condition

/-- A part is the predicate of a kept filter, with a placeholder for each operand or with the truth
value that is its one operand. -/
inductive ClauseOf (k : Filter × Dimension) (p : Part) : Prop
  | bound (before : Nat) (hoperands : k.1.condition.writesTruth = false)
      (htext : p.text = k.1.condition.operator.clause k.2.expression.text before
        k.1.condition.operands.length)
      (hvalues : p.values = k.1.condition.bound)
      (hplaceholders : NumberFree k.2.expression.text.toList →
        placeholders p.text = (List.range' before k.1.condition.operands.length).map placeholder)
  | written (b : Bool) (hoperands : k.1.condition.writesTruth = true)
      (hoperand : k.1.condition.operands = [.bool b])
      (htext : p.text = (k.2.expression.text ++ if b then " = true" else " = false").toList)
      (hvalues : p.values = [])
      (hplaceholders : NumberFree k.2.expression.text.toList → placeholders p.text = [])

theorem parts_holes (stem : List Char) (vs : List Json) (before : Nat) :
    (Piece.parts before (vs.map fun v => [.hole stem v])).map Part.text =
      (List.range' before vs.length).map placeholder := by
  induction vs generalizing before with
  | nil => rfl
  | cons v vs ih => simp [Piece.parts, Piece.numbered, Piece.values, ih, List.range'_succ]

theorem numbered_oneOf (s : Subject) (choices : List Json) (before : Nat) :
    Piece.numbered before (Predicate.oneOf s choices).pieces = (s.text ++ " IN (").toList ++
      ", ".toList.intercalate ((List.range' before choices.length).map placeholder) ++ [')'] := by
  simp [Predicate.pieces, Piece.numbered, Piece.numbered_append, Piece.numbered_join, parts_holes]

theorem numbered_inequality {f : Fragment} {c : Comparison} {o : Operand} {p : Predicate}
    (h : Condition.predicate.ordered (Predicate.inequality? (.fragment f) c o.value) = .ok p)
    (before : Nat) :
    Piece.numbered before p.pieces = (f.text ++ c.symbol).toList ++ placeholder before := by
  have hp := eq_some_of_ordered h
  obtain ⟨v, hv⟩ := o
  cases v with
  | null | bool b => simp [Predicate.inequality?] at hp
  | _ =>
    obtain rfl := Option.some.inj hp
    exact numbered_compare _ c _ before

/-- A predicate is written with a placeholder for each operand, or it writes a truth value. -/
theorem numbered_cases {c : Condition} {f : Fragment} {p : Predicate}
    (h : c.predicate (.fragment f) = .ok p) (before : Nat) :
    (c.writesTruth = false ∧
        Piece.numbered before p.pieces = c.operator.clause f.text before c.operands.length) ∨
      ∃ b, c.writesTruth = true ∧ c.operands = [.bool b] ∧
        Piece.numbered before p.pieces =
          (f.text ++ if b then " = true" else " = false").toList := by
  cases c with
  | equals o =>
    obtain rfl := Except.ok.inj h
    obtain ⟨v, hv⟩ := o
    cases v with
    | null => simp [Json.isNull] at hv
    | bool b =>
      refine .inr ⟨b, rfl, rfl, ?_⟩
      simp [Predicate.equality, Predicate.pieces, Piece.numbered, Subject.text]
    | _ => exact .inl ⟨rfl, numbered_compare _ .equal _ before⟩
  | oneOf choices =>
    obtain rfl := Except.ok.inj h
    exact .inl ⟨rfl, numbered_oneOf _ choices before⟩
  | atLeast o => exact .inl ⟨rfl, numbered_inequality h before⟩
  | atMost o => exact .inl ⟨rfl, numbered_inequality h before⟩
  | between low high =>
    obtain rfl := Except.ok.inj h
    exact .inl ⟨rfl, numbered_between _ low.value high.value before⟩
  | contains o =>
    obtain ⟨-, rfl⟩ := Condition.contains_eq_ok_iff.1 h
    refine .inl ⟨rfl, ?_⟩
    simp [Predicate.pieces, Piece.numbered, Subject.text, Condition.operator, Operator.clause]

theorem clauseOf_of_states {k : Filter × Dimension} {p : Predicate} (h : States k p)
    (before : Nat) : ClauseOf k ⟨Piece.numbered before p.pieces, Piece.values p.pieces⟩ := by
  obtain ⟨f, hf, hp⟩ := h
  have hvalues : Piece.values p.pieces = k.1.condition.bound :=
    congrArg Prod.snd (written_predicate hp)
  have hsource : p.source = k.2.expression.text :=
    (Predicate.source_eq_of_subject? (subject?_predicate hp)).trans (congrArg SqlText.text hf)
  have hplaceholders : NumberFree k.2.expression.text.toList →
      placeholders (Piece.numbered before p.pieces) =
        (List.range' before k.1.condition.bound.length).map placeholder := by
    intro hfree
    rw [← hvalues]
    exact placeholders_numbered (local_opensNoNumber.chain_predicate (hsource ▸ hfree)) before
  have hlength := k.1.condition.length_bound_add
  have htext := numbered_cases hp before
  rw [Fragment.text, hf] at htext
  obtain ⟨htruth, htext⟩ | ⟨b, htruth, hoperand, htext⟩ := htext
  · have hall : k.1.condition.bound.length = k.1.condition.operands.length := by
      simpa [htruth] using hlength
    exact .bound before htruth htext hvalues (hall ▸ hplaceholders)
  · have hnone : k.1.condition.bound = [] := by
      simpa [htruth, hoperand] using hlength
    rw [hnone] at hvalues hplaceholders
    exact .written b htruth hoperand htext hvalues hplaceholders

/-! ## Parameters -/

/-- The filters of a request on resolved dimensions, each with its dimension. -/
def Request.kept (r : Request) (v : Verdict) : List (Filter × Dimension) :=
  retained v.dimensions r.plan.filters

/-- The parameters that are no operands: the tenant and the limit, the location if there is one, and
the two bounds of the range of dates if there is one. -/
def Request.fixedParams (r : Request) : Nat :=
  2 + (if r.location.isSome then 1 else 0) + if r.plan.dateRange.isSome then 2 else 0

/-- The operands of these filters in all. -/
def operandCount (ks : List (Filter × Dimension)) : Nat :=
  (ks.map fun k => k.1.condition.operands.length).sum

/-- The filters among these that ask for equality with a truth value. -/
def truthCount (ks : List (Filter × Dimension)) : Nat :=
  ks.countP fun k => k.1.condition.writesTruth

theorem truthCount_eq_zero_iff {ks : List (Filter × Dimension)} :
    truthCount ks = 0 ↔ ∀ k ∈ ks, k.1.condition.writesTruth = false := by
  simp [truthCount, List.countP_eq_zero]

theorem ClauseOf.length_values_add {k : Filter × Dimension} {p : Part} (h : ClauseOf k p) :
    p.values.length + (if k.1.condition.writesTruth then 1 else 0) =
      k.1.condition.operands.length := by
  cases h with
  | bound _ _ _ hvalues _ => rw [hvalues, k.1.condition.length_bound_add]
  | written b htruth hoperand _ hvalues _ => simp [hvalues, htruth, hoperand]

theorem length_values_add {ks : List (Filter × Dimension)} {filters : List Part}
    (h : ks.Forall₂ ClauseOf filters) :
    (filters.flatMap Part.values).length + truthCount ks = operandCount ks := by
  induction h with
  | nil => rfl
  | @cons k p ks ps hkp _ ih =>
    have hvalues := hkp.length_values_add
    have hcount : operandCount (k :: ks) = k.1.condition.operands.length + operandCount ks := rfl
    have htruths : truthCount (k :: ks) =
        truthCount ks + if k.1.condition.writesTruth then 1 else 0 := List.countP_cons
    rw [List.flatMap_cons, List.length_append, htruths, hcount, ← ih, ← hvalues]
    omega

theorem length_values_leadingParts (settings : Settings) (request : Request) (primary : String)
    (verdict : Verdict) (days : Option (Date × Date)) (texts : List String) :
    ((leadingParts settings request primary verdict days texts).flatMap Part.values).length =
      1 + (if request.location.isSome then 1 else 0) + if days.isSome then 2 else 0 := by
  have htexts : (texts.flatMap fun _ => ([] : List Json)) = [] := by simp
  cases hlocation : request.location <;> cases days <;>
    simp [leadingParts, hlocation, List.flatMap_map, htexts]

/-- A filter that writes a truth value has an operand and no parameter. -/
theorem length_params_add {settings : Settings} {request : Request} {verdict : Verdict}
    {q : Query} {days : Option (Date × Date)} {texts : List String} {filters : List Part}
    (hparts : q.statement.parts =
      leadingParts settings request q.primaryTable verdict days texts ++ filters)
    (hdays : days.isSome = request.plan.dateRange.isSome)
    (hclauses : (request.kept verdict).Forall₂ ClauseOf filters) :
    q.params.length + truthCount (request.kept verdict) =
      request.fixedParams + operandCount (request.kept verdict) := by
  have hleading :=
    length_values_leadingParts settings request q.primaryTable verdict days texts
  have hfilters := length_values_add hclauses
  rw [hdays] at hleading
  rw [Query.params, Statement.params_eq, hparts, List.flatMap_append, List.length_append,
    List.length_append, hleading, ← hfilters, Request.fixedParams, List.length_singleton]
  omega

/-- The operands of the filters of a query, and its placeholders and parameters. -/
structure BindsOperands (settings : Settings) (request : Request) (verdict : Verdict) (q : Query)
    (days : Option (Date × Date)) (texts : List String) (filters : List Part) : Prop where
  clauses : (request.kept verdict).Forall₂ ClauseOf filters
  parts : q.statement.parts =
    leadingParts settings request q.primaryTable verdict days texts ++ filters
  /-- The query has these parts, if no text it takes in begins a hole. -/
  sql : (∀ t ∈ querySources settings request verdict, HoleFree t.toList) →
    q.sql.toList = q.statement.opening ++
      " AND ".toList.intercalate
        ((leadingParts settings request q.primaryTable verdict days texts ++ filters).map
          Part.text) ++
      q.statement.closing ++ placeholder (q.params.length - 1)
  /-- All that is written is fixed, a name, or supplied by the registry. -/
  template : q.WrittenFrom (queryNames settings request verdict) verdict.Supplies
  params : q.params.length + truthCount (request.kept verdict) =
    request.fixedParams + operandCount (request.kept verdict)
  all_bound : q.params.length = request.fixedParams + operandCount (request.kept verdict) ↔
    ∀ k ∈ request.kept verdict, k.1.condition.writesTruth = false

/-- **Which operands are bound.** -/
theorem exists_bound {registry : Registry} {settings : Settings} {request : Request}
    {q : Query} {verdict : Verdict} (hmade : (compile registry settings request).outcome = .ok q)
    (hanswer : (registry.consult request.plan request.lens).answer = .ok verdict) :
    ∃ days texts filters, BindsOperands settings request verdict q days texts filters := by
  obtain ⟨c⟩ := exists_compilation hmade
  obtain ⟨r⟩ := c.restricted_conditions
  obtain rfl := c.verdict_eq hanswer
  obtain ⟨before, hparts⟩ := r.exists_parts_append
  have hclauses := forall₂_parts (R := States) (S := ClauseOf)
    (fun _ _ b h => clauseOf_of_states h b) r.kept before
  have hcondition : q.statement.parts =
      leadingParts settings request q.primaryTable c.verdict r.days
          (r.fragments.map Fragment.text) ++
        Piece.parts before (r.filters.map Predicate.pieces) := by
    rw [Statement.parts, c.conditions_eq, c.primaryTable_eq, hparts]
  have hparams := length_params_add hcondition r.isSome_days hclauses
  refine ⟨r.days, r.fragments.map Fragment.text, _, {
    clauses := hclauses
    parts := hcondition
    sql := fun hfree => ?_
    template := c.writtenFrom
    params := hparams
    all_bound := ?_ }⟩
  · rw [← hcondition]
    exact Statement.text_eq fun t ht => hfree t (c.source_mem ht)
  · rw [← truthCount_eq_zero_iff]
    omega

theorem exists_bound_sample :
    ∃ q days texts filters,
      (compile (.constant (.ok sampleVerdict)) {} sampleRequest).outcome = .ok q ∧
        ((Registry.constant (.ok sampleVerdict)).consult sampleRequest.plan
          sampleRequest.lens).answer = .ok sampleVerdict ∧
        BindsOperands {} sampleRequest sampleVerdict q days texts filters := by
  obtain ⟨q, hq⟩ := exists_sampleQuery
  have hanswer : ((Registry.constant (.ok sampleVerdict)).consult sampleRequest.plan
      sampleRequest.lens).answer = .ok sampleVerdict := rfl
  obtain ⟨days, texts, filters, h⟩ := exists_bound hq hanswer
  exact ⟨q, days, texts, filters, hq, hanswer, h⟩

/-! ## A truth value that is written out -/

/-- A catalog with a dimension whose values are truth values. -/
def vipCatalog : Catalog :=
  .ofLists [{ slug := "sales", expression := ⟨"SUM(net)", true⟩, table := ⟨"daily", true⟩ }]
    [{ slug := "vip", expression := ⟨"is_vip", true⟩, table := ⟨"daily", true⟩
       type := .boolean }] []

def vipRequest : Request where
  plan :=
    { metrics := ["sales"]
      dimensions := ["vip"]
      filters := [⟨"vip", .equals sampleTruth⟩] }
  tenant := "acme"

/-- There need not be a parameter for each operand. -/
theorem not_always_bound :
    ¬ ∀ (registry : Registry) (settings : Settings) (request : Request) (q : Query)
        (verdict : Verdict),
      (compile registry settings request).outcome = .ok q →
      (registry.consult request.plan request.lens).answer = .ok verdict →
      q.params.length = request.fixedParams + operandCount (request.kept verdict) := by
  intro hall
  obtain ⟨q, hq⟩ : ∃ q, (compile vipCatalog.registry {} vipRequest).outcome = .ok q :=
    exists_of_isOk (by decide +kernel)
  have hparams : (compile vipCatalog.registry {} vipRequest).outcome.toOption.map
      (fun q => q.params.length) = some 2 := by decide +kernel
  have hcount : vipRequest.fixedParams + operandCount
      (vipRequest.kept (vipCatalog.verdict vipRequest.plan vipRequest.lens)) = 3 := by decide
  have hlength : q.params.length = 2 := by simpa [hq, Except.toOption] using hparams
  have hclaim := hall _ _ _ q (vipCatalog.verdict vipRequest.plan vipRequest.lens) hq rfl
  omega

/-- The operand decides the text of the query. -/
example : (compile vipCatalog.registry {} vipRequest).outcome.toOption.map Query.sql =
    some ("SELECT SUM(net) AS \"sales\", is_vip AS \"vip\" \nFROM daily \n" ++
      "WHERE tenant_id = $1 AND is_vip = true GROUP BY is_vip " ++
      "ORDER BY \"sales\" DESC \n LIMIT $2") := by
  decide +kernel

end MetricQuery
