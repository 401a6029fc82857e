import MetricQuery.Proofs.Precedence
import MetricQuery.Proofs.RoundTrip

/-!
# Operands that fit their operator

**Theorem (`operands_fit`).** An object with the fields of a filter, each of its own type, is read
as a filter exactly if the operands that are not `null` are those its operator takes. So wherever a
compilation comes to state a filter, the operands it uses are there, and a choice is one among some
values. The predicates of a query then compare with no `null`, choose among some values, and match
a pattern only if that is made of an operand.

Filters are read in two steps, and all depends on what the second one accepts: exactly the fields
that some filter is written with (`FilterFields.ofFilter_of_toFilter`), and these are the fields
with fitting operands (`FilterFields.exists_ofFilter`). An empty choice fits. It is turned down
before the first filter is stated (`Request.Reaches`).
-/

namespace MetricQuery

open Sql Record

/-! ## Fitting operands -/

/-- The operands that an operator takes. -/
def Operator.takes : Operator → List Key
  | oneOf => [Filter.valuesKey]
  | between => [Filter.rangeStartKey, Filter.rangeEndKey]
  | equals | atLeast | atMost | contains => [Filter.valueKey]

def Filter.operandKeys : List Key := [valueKey, valuesKey, rangeStartKey, rangeEndKey]

section Takes

open MetricQuery.Filter

variable {op : Operator}

theorem valueKey_mem_takes : valueKey ∈ op.takes ↔ op ≠ .oneOf ∧ op ≠ .between := by
  cases op <;> decide

theorem valuesKey_mem_takes : valuesKey ∈ op.takes ↔ op = .oneOf := by
  cases op <;> decide

theorem rangeStartKey_mem_takes : rangeStartKey ∈ op.takes ↔ op = .between := by
  cases op <;> decide

theorem rangeEndKey_mem_takes : rangeEndKey ∈ op.takes ↔ op = .between := by
  cases op <;> decide

end Takes

theorem Operand.value_ne_null (o : Operand) : o.value ≠ .null := by
  intro h
  have hpresent := o.present
  rw [h] at hpresent
  contradiction

theorem Operand.exists_value_eq {v : Json} (h : v ≠ .null) : ∃ o : Operand, o.value = v :=
  ⟨⟨v, Bool.eq_false_iff.2 (mt Json.isNull_iff.1 h)⟩, rfl⟩

theorem Operand.ofJson?_eq_none_iff {v : Json} : ofJson? v = none ↔ v = .null := by
  cases v <;> simp [ofJson?, Json.isNull]

theorem Operand.ofJson?_eq_some_iff {v : Json} {o : Operand} :
    ofJson? v = some o ↔ v = o.value := by
  constructor
  · intro h
    unfold ofJson? at h
    split at h
    · rw [← Option.some.inj h]
    · contradiction
  · rintro rfl
    exact ofJson?_value o

namespace FilterFields

/-- The operands with their keys; those not given are `null`. -/
def operands (f : FilterFields) : List (Key × Json) :=
  [(Filter.valueKey, f.value), (Filter.valuesKey, .orNull .arr f.values),
    (Filter.rangeStartKey, f.rangeStart), (Filter.rangeEndKey, f.rangeEnd)]

/-- The operands that are not `null` are exactly those the operator takes. -/
def Fits (f : FilterFields) : Prop := ∀ p ∈ f.operands, p.2 ≠ .null ↔ p.1 ∈ f.operator.takes

theorem single?_eq_ok {f : FilterFields} {o : Operand} (h : f.single? = .ok o) :
    f.value = o.value ∧ f.values = none ∧ f.rangeStart = .null ∧ f.rangeEnd = .null := by
  unfold single? at h
  split at h
  · next v hvalue hvalues hstart hend =>
    rw [← Except.ok.inj h]
    exact ⟨Operand.ofJson?_eq_some_iff.1 hvalue, hvalues, Operand.ofJson?_eq_none_iff.1 hstart,
      Operand.ofJson?_eq_none_iff.1 hend⟩
  · contradiction

theorem ofFilter_of_condition {f : FilterFields} {c : Condition} (h : f.condition = .ok c) :
    ofFilter ⟨f.slug, c⟩ = f := by
  obtain ⟨slug, op, value, values, low, high⟩ := f
  cases op with
  | equals | atLeast | atMost | contains =>
    obtain ⟨o, ho, rfl⟩ := map_eq_ok.1 h
    obtain ⟨rfl, rfl, rfl, rfl⟩ := single?_eq_ok ho
    rfl
  | oneOf =>
    simp only [condition] at h
    split at h
    · next choices hvalue hlow hhigh =>
      obtain rfl := Operand.ofJson?_eq_none_iff.1 hvalue
      obtain rfl := Operand.ofJson?_eq_none_iff.1 hlow
      obtain rfl := Operand.ofJson?_eq_none_iff.1 hhigh
      rw [← Except.ok.inj h]
      rfl
    · contradiction
  | between =>
    simp only [condition] at h
    split at h
    · next l u hlow hhigh =>
      split at h
      · next hvalue =>
        obtain rfl := Operand.ofJson?_eq_none_iff.1 hvalue
        obtain rfl := Operand.ofJson?_eq_some_iff.1 hlow
        obtain rfl := Operand.ofJson?_eq_some_iff.1 hhigh
        rw [← Except.ok.inj h]
        rfl
      · contradiction
    · contradiction

/-- Only the fields that write a filter are taken for it. -/
theorem ofFilter_of_toFilter {f : FilterFields} {g : Filter} (h : f.toFilter = .accepted g) :
    ofFilter g = f := by
  unfold toFilter at h
  split at h
  · next c hc =>
    obtain rfl : ⟨f.slug, c⟩ = g := by simpa using h
    exact ofFilter_of_condition hc
  · cases h

theorem fits_iff {f : FilterFields} :
    f.Fits ↔ (f.value ≠ .null ↔ f.operator ≠ .oneOf ∧ f.operator ≠ .between) ∧
      (f.values ≠ none ↔ f.operator = .oneOf) ∧
      (f.rangeStart ≠ .null ↔ f.operator = .between) ∧
      (f.rangeEnd ≠ .null ↔ f.operator = .between) := by
  have hvalues : Json.orNull .arr f.values ≠ .null ↔ f.values ≠ none := by
    cases f.values <;> simp [Json.orNull]
  unfold Fits operands
  simp only [List.forall_mem_cons, List.not_mem_nil, false_imp_iff, implies_true, and_true,
    valueKey_mem_takes, valuesKey_mem_takes, rangeStartKey_mem_takes, rangeEndKey_mem_takes,
    hvalues]

theorem fits_ofFilter (g : Filter) : (ofFilter g).Fits := by
  obtain ⟨slug, c⟩ := g
  rw [fits_iff]
  cases c with
  | equals o | atLeast o | atMost o | contains o =>
    simp [ofFilter, Condition.operator, o.value_ne_null]
  | oneOf choices => simp [ofFilter, Condition.operator]
  | between low high =>
    simp [ofFilter, Condition.operator, low.value_ne_null, high.value_ne_null]

theorem exists_single {f : FilterFields} (h : f.Fits) (hone : f.operator ≠ .oneOf)
    (hbetween : f.operator ≠ .between) :
    ∃ o : Operand, f = ⟨f.slug, f.operator, o.value, none, .null, .null⟩ := by
  obtain ⟨slug, op, value, values, low, high⟩ := f
  obtain ⟨hvalue, rfl, rfl, rfl⟩ : value ≠ .null ∧ values = none ∧ low = .null ∧ high = .null := by
    simpa [hone, hbetween] using fits_iff.1 h
  obtain ⟨o, rfl⟩ := Operand.exists_value_eq hvalue
  exact ⟨o, rfl⟩

/-- Fields with fitting operands write a filter. -/
theorem exists_ofFilter {f : FilterFields} (h : f.Fits) : ∃ g, ofFilter g = f := by
  obtain ⟨slug, op, value, values, low, high⟩ := f
  cases op with
  | equals =>
    obtain ⟨o, ho⟩ := exists_single h nofun nofun
    exact ⟨⟨slug, .equals o⟩, ho.symm⟩
  | atLeast =>
    obtain ⟨o, ho⟩ := exists_single h nofun nofun
    exact ⟨⟨slug, .atLeast o⟩, ho.symm⟩
  | atMost =>
    obtain ⟨o, ho⟩ := exists_single h nofun nofun
    exact ⟨⟨slug, .atMost o⟩, ho.symm⟩
  | contains =>
    obtain ⟨o, ho⟩ := exists_single h nofun nofun
    exact ⟨⟨slug, .contains o⟩, ho.symm⟩
  | oneOf =>
    obtain ⟨rfl, hvalues, rfl, rfl⟩ :
        value = .null ∧ values ≠ none ∧ low = .null ∧ high = .null := by
      simpa using fits_iff.1 h
    obtain ⟨choices, rfl⟩ := Option.ne_none_iff_exists'.1 hvalues
    exact ⟨⟨slug, .oneOf choices⟩, rfl⟩
  | between =>
    obtain ⟨rfl, rfl, hlow, hhigh⟩ :
        value = .null ∧ values = none ∧ low ≠ .null ∧ high ≠ .null := by
      simpa using fits_iff.1 h
    obtain ⟨l, rfl⟩ := Operand.exists_value_eq hlow
    obtain ⟨u, rfl⟩ := Operand.exists_value_eq hhigh
    exact ⟨⟨slug, .between l u⟩, rfl⟩

theorem exists_toFilter_iff {f : FilterFields} : (∃ g, f.toFilter = .accepted g) ↔ f.Fits := by
  constructor
  · intro ⟨g, hg⟩
    exact ofFilter_of_toFilter hg ▸ fits_ofFilter g
  · intro h
    obtain ⟨g, rfl⟩ := exists_ofFilter h
    exact ⟨g, toFilter_ofFilter g⟩

end FilterFields

/-! ## Objects with the fields of a filter -/

namespace Filter

/-- The members are those of a filter with this operator: each is the member of some field, and
where it matters it is of the field's type. -/
structure WellTyped (ms : Members) (op : Operator) : Prop where
  known : ∀ m ∈ ms, ∃ k ∈ keys, ∃ v, k.find? ms = some (m.1, v)
  slug : ∃ name s, slugKey.find? ms = some (name, .str s)
  operator : ∃ name, operatorKey.find? ms = some (name, .str op.name)
  values : ∀ name v, valuesKey.find? ms = some (name, v) → v = .null ∨ ∃ choices, v = .arr choices

/-- The members give an operand: they have its key, and not with `null`. -/
def Given (ms : Members) (k : Key) : Prop := ∃ name v, k.find? ms = some (name, v) ∧ v ≠ .null

/-- What the members have for a key; a key they do not have is as good as one with `null`. -/
def valueAt (ms : Members) (k : Key) : Json := ((k.find? ms).map Prod.snd).getD .null

theorem given_iff {ms : Members} {k : Key} : Given ms k ↔ valueAt ms k ≠ .null := by
  unfold Given valueAt
  cases k.find? ms with
  | none => simp
  | some m =>
    obtain ⟨name, v⟩ := m
    simp

theorem field_anything (ms : Members) (k : Key) :
    field k .null Read.anything ms = .accepted (valueAt ms k) := by
  unfold field valueAt
  cases k.find? ms <;> rfl

theorem field_optional {ms : Members} {k : Key} {values : Option (List Json)}
    (h : valueAt ms k = .orNull .arr values) :
    field k none (Read.optional (Read.list Read.anything)) ms = .accepted values := by
  have hread : Read.optional (Read.list Read.anything) (.orNull .arr values) = .accepted values :=
    Read.optional_orNull (fun l _ => Read.list_anything l) fun _ => rfl
  unfold field valueAt at *
  cases hfind : k.find? ms with
  | none =>
    rw [hfind] at h
    cases values with
    | none => rfl
    | some l => cases h
  | some m =>
    obtain ⟨name, v⟩ := m
    rw [hfind] at h
    obtain rfl : v = _ := h
    exact Checked.under_eq_accepted.2 hread

theorem strangers_eq_nil {ms : Members}
    (h : ∀ m ∈ ms, ∃ k ∈ keys, ∃ v, k.find? ms = some (m.1, v)) : strangers keys ms = [] := by
  rw [strangers, List.map_eq_nil_iff, List.filter_eq_nil_iff]
  intro m hm
  obtain ⟨k, hk, v, hfind⟩ := h m hm
  have hfield : isField keys ms m.1 = true :=
    List.any_eq_true.2 ⟨k, hk, by simp [hfind]⟩
  simp [hfield]

namespace WellTyped

variable {ms : Members} {op : Operator}

theorem exists_values (h : WellTyped ms op) :
    ∃ values : Option (List Json), valueAt ms valuesKey = .orNull .arr values := by
  unfold valueAt
  cases hfind : valuesKey.find? ms with
  | none => exact ⟨none, rfl⟩
  | some m =>
    rcases h.values m.1 m.2 hfind with hnull | ⟨choices, hchoices⟩
    · exact ⟨none, hnull⟩
    · exact ⟨some choices, hchoices⟩

/-- The first step of reading succeeds, and the operands are those of the members. -/
theorem exists_readFields (h : WellTyped ms op) :
    ∃ fields, readFields (.obj ms) = .accepted fields ∧ fields.operator = op ∧
      fields.operands = operandKeys.map fun k => (k, valueAt ms k) := by
  obtain ⟨slugName, slug, hslug⟩ := h.slug
  obtain ⟨operatorName, hoperator⟩ := h.operator
  obtain ⟨values, hvalues⟩ := h.exists_values
  refine ⟨⟨slug, op, valueAt ms valueKey, values, valueAt ms rangeStartKey, valueAt ms rangeEndKey⟩,
    ?_, rfl, ?_⟩
  · have hreadSlug : required slugKey Read.text ms = .accepted slug := by
      unfold required
      rw [hslug]
      rfl
    have hreadOperator : required operatorKey (Read.choice Operator.all Operator.name) ms =
        .accepted op := by
      unfold required
      rw [hoperator]
      exact Checked.under_eq_accepted.2 (Read.choice_name (by decide) op.mem_all)
    show (FilterFields.mk <$> required slugKey Read.text ms <*> _ <*> _ <*> _ <*> _ <*> _) <* _ = _
    rw [hreadSlug, hreadOperator, field_anything, field_optional hvalues, field_anything,
      field_anything, strangers_eq_nil h.known]
    rfl
  · show [_, (valuesKey, Json.orNull .arr values), _, _] = _
    rw [← hvalues]
    rfl

/-- An object with fields of the right types is read exactly if its operands fit, and the operands
of what is read are those given. -/
theorem exists_read_iff (h : WellTyped ms op) :
    ((∃ f, read (.obj ms) = .accepted f) ↔ ∀ k ∈ operandKeys, Given ms k ↔ k ∈ op.takes) ∧
      ∀ f, read (.obj ms) = .accepted f →
        (FilterFields.ofFilter f).operands = operandKeys.map fun k => (k, valueAt ms k) := by
  obtain ⟨fields, hfields, rfl, hoperands⟩ := h.exists_readFields
  have hread : read (.obj ms) = fields.toFilter := by
    rw [read, hfields]
    rfl
  rw [hread]
  constructor
  · rw [FilterFields.exists_toFilter_iff, FilterFields.Fits, hoperands]
    simp only [List.forall_mem_map, given_iff]
  · intro f hf
    rw [FilterFields.ofFilter_of_toFilter hf, hoperands]

end WellTyped

end Filter

/-! ## Filters that are reached -/

/-- The compilation of a request comes to state this filter about this expression: all steps before
that succeed. -/
inductive Request.Reaches (registry : Registry) (settings : Settings) (r : Request) (f : Filter)
    (e : Fragment) : Prop
  | intro {first : Metric} {verdict : Verdict} {selection : Selection} {span : Option Span}
      {ofMetrics : List Predicate} {before after : List (Filter × Fragment)}
      (asked : r.plan.metrics ≠ [])
      (resolved : (registry.consult r.plan r.lens).resolve = .ok (first, verdict))
      (selected : Selection.ofDefinitions first.table.text verdict.metrics verdict.dimensions =
        .ok selection)
      (dated : Restriction.span settings r = .ok span)
      (counted : Restriction.ofMetrics verdict.metrics = .ok ofMetrics)
      (chosen : Restriction.checkChoices r.plan.filters = .ok ())
      (kept : Restriction.kept selection r.plan.filters = before ++ (f, e) :: after)
      (stated : ∀ k ∈ before, ∃ p, k.1.condition.predicate (.fragment k.2) = .ok p)

theorem Restriction.not_emptyChoice_of_checkChoices {filters : List Filter}
    (h : checkChoices filters = .ok ()) {f : Filter} (hf : f ∈ filters) :
    f.condition ≠ .oneOf [] := by
  unfold checkChoices at h
  split at h
  · contradiction
  · next hnone =>
    intro hempty
    exact List.find?_eq_none.1 hnone f hf (Condition.isEmptyChoice_iff.2 hempty)

theorem Restriction.mem_of_mem_kept {selection : Selection} {filters : List Filter}
    {k : Filter × Fragment} (h : k ∈ kept selection filters) : k.1 ∈ filters := by
  obtain ⟨f, hf, hk⟩ := List.mem_filterMap.1 h
  obtain ⟨d, -, rfl⟩ := Option.map_eq_some_iff.1 hk
  exact hf

theorem FilterFields.values_ofFilter {f : Filter} :
    (ofFilter f).values = some [] ↔ f.condition = .oneOf [] := by
  obtain ⟨slug, c⟩ := f
  cases c <;> simp [ofFilter]

namespace Request.Reaches

variable {registry : Registry} {settings : Settings} {r : Request} {f : Filter} {e : Fragment}

theorem ne_emptyChoice (h : r.Reaches registry settings f e) : f.condition ≠ .oneOf [] := by
  obtain ⟨-, -, -, -, -, hchosen, hkept, -⟩ := h
  have hmem : (f, e) ∈ Restriction.kept _ r.plan.filters :=
    hkept ▸ List.mem_append_right _ List.mem_cons_self
  exact Restriction.not_emptyChoice_of_checkChoices hchosen (Restriction.mem_of_mem_kept hmem)

/-- Where a filter is reached that cannot be stated, that is the outcome. -/
theorem outcome_eq (h : r.Reaches registry settings f e) {x : Failure}
    (hx : f.condition.predicate (.fragment e) = .error x) :
    (compile registry settings r).outcome = .error x := by
  obtain @⟨_, _, selection, _, _, _, _, hasked, hresolved, hselected, hdated, hcounted, hchosen,
    hkept, hstated⟩ := h
  have hfilters : Restriction.ofFilters selection r.plan.filters = .error x := by
    unfold Restriction.ofFilters
    rw [hkept]
    exact mapM_eq_error hstated hx
  rw [outcome_compile hasked, hresolved]
  simp only [Query.build, Restriction.all, bind, Except.bind, hselected, hdated, hcounted, hchosen,
    hfilters]

end Request.Reaches

/-! ## Predicates of queries -/

/-- What a query for the request may ask of its rows: no comparison with `null`, no choice among
nothing, and no pattern but that of a filter which is reached. -/
def Request.Admits (registry : Registry) (settings : Settings) (r : Request) : Predicate → Prop
  | .compare _ _ v => v ≠ .null
  | .isNull _ => False
  | .isTruth _ _ => True
  | .between _ low high => low ≠ .null ∧ high ≠ .null
  | .oneOf _ choices => choices ≠ []
  | .like s pattern => ∃ f e o, r.Reaches registry settings f e ∧ s = .fragment e ∧
      f.condition = .contains o ∧ o.value ≠ .null ∧ pattern = containsPattern o.value.display
  | .fragment _ => True

namespace Request

variable {registry : Registry} {settings : Settings} {r : Request} {q : Query}

theorem Reaches.admits {f : Filter} {e : Fragment} {p : Predicate}
    (h : r.Reaches registry settings f e) (hp : f.condition.predicate (.fragment e) = .ok p) :
    r.Admits registry settings p := by
  have hchoice := h.ne_emptyChoice
  have hinequality : ∀ {c o}, Predicate.inequality? (.fragment e) c (Operand.value o) = some p →
      r.Admits registry settings p := by
    intro c o hsome
    have hnull := o.value_ne_null
    cases hvalue : o.value with
    | null | bool b => simp [hvalue, Predicate.inequality?] at hsome
    | _ =>
      rw [hvalue] at hsome hnull
      obtain rfl := Option.some.inj hsome
      exact hnull
  cases hcondition : f.condition with
  | equals o =>
    rw [hcondition] at hp
    obtain rfl := Except.ok.inj hp
    have hnull := o.value_ne_null
    cases hvalue : o.value with
    | null => contradiction
    | bool b => trivial
    | _ =>
      rw [hvalue] at hnull
      exact hnull
  | atLeast o | atMost o =>
    rw [hcondition] at hp
    exact hinequality (eq_some_of_ordered hp)
  | oneOf choices =>
    rw [hcondition] at hp hchoice
    obtain rfl := Except.ok.inj hp
    exact fun hnil => hchoice (congrArg Condition.oneOf hnil)
  | between low high =>
    rw [hcondition] at hp
    obtain rfl := Except.ok.inj hp
    exact ⟨low.value_ne_null, high.value_ne_null⟩
  | contains o =>
    rw [hcondition] at hp
    obtain ⟨-, rfl⟩ := Condition.contains_eq_ok_iff.1 hp
    exact ⟨f, e, o, h, rfl, hcondition, o.value_ne_null, rfl⟩

/-- All filters that a query keeps were reached. -/
theorem reaches_of_compilation (c : Compilation registry settings r q)
    (hasked : r.plan.metrics ≠ []) {k : Filter × Fragment}
    (hk : k ∈ Restriction.kept c.selection r.plan.filters) :
    r.Reaches registry settings k.1 k.2 := by
  obtain ⟨span, ofM, ofF, hspan, hofM, hchoices, hofF, -⟩ := Restriction.all_eq_ok.1 c.restricted
  obtain ⟨before, after, hkept⟩ := List.append_of_mem hk
  have hresolved := Consultation.resolve_eq_ok.2 ⟨c.answer, c.valid, c.first_metric⟩
  refine .intro hasked hresolved c.selected hspan hofM hchoices hkept ?_
  intro k' hk'
  have hmem : k' ∈ Restriction.kept c.selection r.plan.filters :=
    hkept ▸ List.mem_append_left _ hk'
  obtain ⟨p, -, hp⟩ := exists_left_of_forall₂ (mapM_eq_ok.1 hofF).flip hmem
  exact ⟨p, hp⟩

theorem admits_of_compiled (h : (compile registry settings r).outcome = .ok q) {p : Predicate}
    (hp : p ∈ q.statement.conditions) : r.Admits registry settings p := by
  have hasked : r.plan.metrics ≠ [] := by
    intro hempty
    rw [compile_of_noMetrics hempty] at h
    contradiction
  obtain ⟨c⟩ := exists_compilation h
  obtain ⟨span, ofM, ofF, -, hofM, -, hofF, heq⟩ := Restriction.all_eq_ok.1 c.restricted
  obtain ⟨fragments, rfl, -⟩ := exists_fragments hofM
  rw [c.conditions_eq, ← heq] at hp
  rcases List.mem_append.1 hp with hp | hp
  · -- Scope, dates and conditions of metrics compare with texts or are whole fragments.
    simp only [Restriction.scope, List.mem_append, List.mem_cons, List.mem_map,
      Option.mem_toList, Option.map_eq_some_iff] at hp
    have htext : ∀ s, Json.str s ≠ .null := by simp
    rcases hp with ((rfl | ⟨l, -, rfl⟩) | ⟨s, -, rfl⟩) | ⟨f, -, rfl⟩
    · exact htext r.tenant
    · exact htext l
    · exact ⟨htext _, htext _⟩
    · trivial
  · obtain ⟨k, hk, hstated⟩ := exists_left_of_forall₂ (mapM_eq_ok.1 hofF) hp
    exact (reaches_of_compilation c hasked hk).admits hstated

end Request

/-- **Operands fit.** -/
theorem operands_fit :
    (∀ ms op, Filter.WellTyped ms op →
      ((∃ f, Filter.read (.obj ms) = .accepted f) ↔
        ∀ k ∈ Filter.operandKeys, Filter.Given ms k ↔ k ∈ op.takes) ∧
      ∀ f, Filter.read (.obj ms) = .accepted f → (FilterFields.ofFilter f).operands =
        Filter.operandKeys.map fun k => (k, Filter.valueAt ms k)) ∧
    ∀ (s : Submission) r, s.read = .accepted r → ∀ registry settings,
      (∀ f e, r.Reaches registry settings f e →
        (FilterFields.ofFilter f).Fits ∧ (FilterFields.ofFilter f).values ≠ some [] ∧
        ∀ x, f.condition.predicate (.fragment e) = .error x →
          (s.report registry settings).outcome = .error x) ∧
      ∀ q, (s.report registry settings).outcome = .ok q →
        ∀ p ∈ q.statement.conditions, r.Admits registry settings p := by
  refine ⟨fun ms op h => h.exists_read_iff, ?_⟩
  intro s r hread registry settings
  rw [Submission.report_of_accepted hread]
  refine ⟨?_, fun q hq p hp => Request.admits_of_compiled hq hp⟩
  intro f e h
  have hchoices : (FilterFields.ofFilter f).values ≠ some [] :=
    mt FilterFields.values_ofFilter.1 h.ne_emptyChoice
  exact ⟨FilterFields.fits_ofFilter f, hchoices, fun x hx => h.outcome_eq hx⟩

/-- A filter between two numbers, with keys in both spellings and an operand that is `null`. -/
def betweenMembers : Members :=
  [("dimension_slug", .str "guests"), ("operator", .str "between"), ("values", .null),
    ("range_start", .int 2), ("rangeEnd", .int 9)]

theorem wellTyped_betweenMembers : Filter.WellTyped betweenMembers .between where
  known := by
    intro m hm
    simp only [betweenMembers, List.mem_cons, List.not_mem_nil, or_false] at hm
    rcases hm with rfl | rfl | rfl | rfl | rfl
    · exact ⟨Filter.slugKey, by decide, _, rfl⟩
    · exact ⟨Filter.operatorKey, by decide, _, rfl⟩
    · exact ⟨Filter.valuesKey, by decide, _, rfl⟩
    · exact ⟨Filter.rangeStartKey, by decide, _, rfl⟩
    · exact ⟨Filter.rangeEndKey, by decide, _, rfl⟩
  slug := ⟨_, _, rfl⟩
  operator := ⟨_, rfl⟩
  values name v h := by
    have hfind : Filter.valuesKey.find? betweenMembers = some ("values", .null) := rfl
    rw [hfind] at h
    obtain ⟨rfl, rfl⟩ := Prod.mk.inj (Option.some.inj h)
    exact .inl rfl

/-- The filter is read, and in a request with several filters one is reached. -/
theorem operands_fit_sample :
    (∃ f, Filter.read (.obj betweenMembers) = .accepted f) ∧
    (∃ f e, sampleRequest.Reaches (.constant (.ok sampleVerdict)) {} f e ∧
      (FilterFields.ofFilter f).Fits) ∧
    ∃ q, (compile (.constant (.ok sampleVerdict)) {} sampleRequest).outcome = .ok q ∧
      ∀ p ∈ q.statement.conditions,
        sampleRequest.Admits (.constant (.ok sampleVerdict)) {} p := by
  obtain ⟨q, hq⟩ := exists_sampleQuery
  obtain ⟨c⟩ := exists_compilation hq
  have hreads := (operands_fit.1 betweenMembers .between wellTyped_betweenMembers).1
  obtain ⟨hreached, hadmits⟩ := operands_fit.2 (.request sampleRequest) sampleRequest rfl
    (.constant (.ok sampleVerdict)) {}
  refine ⟨hreads.2 ?_, ?_, q, hq, hadmits q hq⟩
  · intro k hk
    simp only [Filter.operandKeys, List.mem_cons, List.not_mem_nil, or_false] at hk
    rw [Filter.given_iff]
    rcases hk with rfl | rfl | rfl | rfl
    · exact iff_of_false (not_not.2 rfl) (by decide)
    · exact iff_of_false (not_not.2 rfl) (by decide)
    · exact iff_of_true nofun (by decide)
    · exact iff_of_true nofun (by decide)
  · have hkept : (Restriction.kept c.selection sampleRequest.plan.filters).length = 3 := by
      rw [← List.length_map Prod.fst, c.resolves.map_fst_kept, c.verdict_eq rfl]
      decide
    have hpos : 0 < (Restriction.kept c.selection sampleRequest.plan.filters).length := by omega
    obtain ⟨k, hk⟩ := List.exists_mem_of_length_pos hpos
    have hreaches := Request.reaches_of_compilation c (by decide) hk
    exact ⟨k.1, k.2, hreaches, (hreached k.1 k.2 hreaches).1⟩

end MetricQuery
