import MetricQuery.Proofs.Spelling

/-!
# Records read back as they were written

**Theorem (`roundTrips_records`).** What was read from a JSON value comes back from what is written
of it, whatever the style. So a value settles when it is read and written: doing that again changes
nothing.

A record is written with one member for each field, so a field finds its own member
(`find?_members`). The exception is a field that is `null` and left out; but then nothing is found,
and that is what the field means by `null` (`field_members`). Read back are all filters, ranges of
dates, sort keys and plans, and the requests with a tenant and with a bound that allows something
(`Request.Valid`). The other requests cannot be written down at all: nothing reads as one.
-/

namespace MetricQuery

/-! ## Accepted values -/

namespace Checked

variable {α β : Type} {a : α} {b : β}

theorem map_eq_accepted {f : α → β} {x : Checked α} :
    f <$> x = accepted b ↔ ∃ a, x = accepted a ∧ f a = b := by
  cases x <;> simp

theorem seq_eq_accepted {f : Checked (α → β)} {x : Checked α} :
    f <*> x = accepted b ↔ ∃ g a, f = accepted g ∧ x = accepted a ∧ g a = b := by
  cases f with
  | accepted g => simp [map_eq_accepted]
  | rejected is => cases x <;> simp

theorem seqLeft_eq_accepted {x : Checked α} {y : Checked β} :
    x <* y = accepted a ↔ x = accepted a ∧ ∃ b, y = accepted b := by
  show Function.const β <$> x <*> y = accepted a ↔ _
  rw [seq_eq_accepted]
  constructor
  · rintro ⟨g, b, hg, hy, rfl⟩
    obtain ⟨a, hx, rfl⟩ := map_eq_accepted.1 hg
    exact ⟨hx, b, hy⟩
  · rintro ⟨hx, b, hy⟩
    exact ⟨Function.const β a, b, map_eq_accepted.2 ⟨a, hx, rfl⟩, hy, rfl⟩

theorem andThen_eq_accepted {x : Checked α} {f : α → Checked β} :
    x.andThen f = accepted b ↔ ∃ a, x = accepted a ∧ f a = accepted b := by
  cases x <;> simp [andThen]

theorem under_eq_accepted {step : Step} {x : Checked α} :
    x.under step = accepted a ↔ x = accepted a := by
  cases x <;> simp [under]

end Checked

/-! ## Parts of records -/

namespace Read

theorem text_str (s : String) : text (.str s) = .accepted s := rfl

theorem integer_int (n : Int) : integer (.int n) = .accepted n := rfl

theorem one_le_of_positive {v : Json} {n : Int} (h : positive v = .accepted n) : 1 ≤ n := by
  obtain ⟨m, -, hm⟩ := Checked.andThen_eq_accepted.1 h
  by_cases hlt : m < 1
  · simp [hlt, Checked.fail] at hm
  · simp only [hlt, if_false, Checked.accepted.injEq] at hm
    omega

theorem positive_int {n : Int} (h : 1 ≤ n) : positive (.int n) = .accepted n := by
  simp [positive, integer_int, Checked.andThen, Int.not_lt.2 h]

variable {α : Type} {read : Json → Checked α} {write : α → Json}

theorem items_map {l : List α} (h : ∀ a ∈ l, read (write a) = .accepted a) (i : Nat) :
    items read i (l.map write) = .accepted l := by
  induction l generalizing i with
  | nil => rfl
  | cons a l ih =>
    obtain ⟨ha, hl⟩ := List.forall_mem_cons.1 h
    rw [List.map_cons, items, ha, ih hl]
    rfl

theorem list_map {l : List α} (h : ∀ a ∈ l, read (write a) = .accepted a) :
    list read (.arr (l.map write)) = .accepted l :=
  items_map h 0

theorem list_anything (l : List Json) : list anything (.arr l) = .accepted l := by
  have hl : list anything (.arr (l.map id)) = .accepted l := list_map fun _ _ => rfl
  rwa [List.map_id] at hl

theorem optional_orNull {o : Option α} (h : ∀ a, o = some a → read (write a) = .accepted a)
    (hnull : ∀ a, (write a).isNull = false) :
    optional read (.orNull write o) = .accepted o := by
  cases o with
  | none => rfl
  | some a =>
    show optional read (write a) = .accepted (some a)
    rw [optional_eq, hnull a, h a rfl]
    rfl

/-- A choice is read from its name, if no other has that name. -/
theorem choice_name {all : List α} {name : α → String}
    (hname : ∀ a ∈ all, ∀ b ∈ all, name a = name b → a = b) {a : α} (ha : a ∈ all) :
    choice all name (.str (name a)) = .accepted a := by
  unfold choice
  cases hfind : all.find? fun b => name b == name a with
  | none => simpa using List.find?_eq_none.1 hfind a ha
  | some b =>
    have hsame : name b = name a := by simpa using List.find?_some hfind
    obtain rfl := hname b (List.mem_of_find?_eq_some hfind) a ha hsame
    simp [hfind]

end Read

theorem Direction.mem_all (d : Direction) : d ∈ all := by
  cases d <;> decide

theorem Bucket.mem_all (b : Bucket) : b ∈ all := by
  cases b <;> decide

namespace Record

/-! ## Read records -/

section Read

variable {α : Type} {k : Key} {ms : Members} {a : α} {read : Json → Checked α}

theorem exists_members_of_read {title : String} {keys : List Key} {fieldsOf : Members → Checked α}
    {v : Json} (h : Record.read title keys fieldsOf v = .accepted a) :
    ∃ ms, v = .obj ms ∧ fieldsOf ms = .accepted a := by
  cases v with
  | obj ms => exact ⟨ms, rfl, (Checked.seqLeft_eq_accepted.1 h).1⟩
  | _ => cases h

theorem exists_of_required (h : required k read ms = .accepted a) :
    ∃ v, read v = .accepted a := by
  unfold required at h
  split at h
  · next name v _ => exact ⟨v, Checked.under_eq_accepted.1 h⟩
  · cases h

theorem exists_of_optional (h : field k none (Read.optional read) ms = .accepted (some a)) :
    ∃ v, read v = .accepted a := by
  unfold field at h
  split at h
  · next name v _ =>
    have hv := Checked.under_eq_accepted.1 h
    rw [Read.optional_eq] at hv
    by_cases hnull : v.isNull = true
    · rw [if_pos hnull] at hv
      cases hv
    · rw [if_neg hnull] at hv
      obtain ⟨b, hb, hsome⟩ := Checked.map_eq_accepted.1 hv
      obtain rfl := Option.some.inj hsome
      exact ⟨v, hb⟩
  · cases h

end Read

/-! ## Written records -/

/-- The members that fields are written as. -/
def members (style : Style) (fields : List (Key × Json)) : Members :=
  (fields.filter fun f => !(style.omitNull && f.2.isNull)).map fun f =>
    (f.1.spelled style.spelling, f.2)

section Members

variable {style : Style} {fields : List (Key × Json)}

theorem mem_members {m : String × Json} :
    m ∈ members style fields ↔ ∃ f ∈ fields, (style.omitNull && f.2.isNull) = false ∧
      (f.1.spelled style.spelling, f.2) = m := by
  simp only [members, List.mem_map, List.mem_filter, Bool.not_eq_true', and_assoc]

variable (h : Apart (fields.map Prod.fst))

include h

theorem oneEach_members : OneEach (fields.map Prod.fst) (members style fields) := by
  have hfields : fields.Pairwise fun f f' => ∀ n ∈ f.1.names, n ∉ f'.1.names :=
    List.pairwise_map.1 h
  unfold OneEach members
  rw [List.pairwise_map]
  refine (hfields.filter _).imp_of_mem fun {f f'} hf hf' hapart k hk hs hs' => ?_
  -- A key with the names of two fields would be the key of both.
  have hkey : f.1 ∈ fields.map Prod.fst := List.mem_map_of_mem (List.mem_filter.1 hf).1
  have hkey' : f'.1 ∈ fields.map Prod.fst := List.mem_map_of_mem (List.mem_filter.1 hf').1
  obtain rfl := h.eq_of_spells hk hkey hs (f.1.spells_spelled _)
  exact hapart _ hs' (f'.1.spells_spelled _)

theorem eq_of_key_eq {f f' : Key × Json} (hf : f ∈ fields) (hf' : f' ∈ fields)
    (hkey : f.1 = f'.1) : f = f' := by
  have hfields : fields.Pairwise fun f f' => ∀ n ∈ f.1.names, n ∉ f'.1.names :=
    List.pairwise_map.1 h
  have hsymm : Std.Symm fun f f' : Key × Json => ∀ n ∈ f.1.names, n ∉ f'.1.names :=
    ⟨fun _ _ h n hn' hn => h n hn hn'⟩
  by_contra hne
  have hcamel : f.1.camel ∈ f.1.names := List.mem_cons_self
  exact hfields.forall hf hf' hne f.1.camel hcamel (hkey ▸ hcamel)

/-- A field finds its own member, unless that was left out. -/
theorem find?_members {f : Key × Json} (hf : f ∈ fields) :
    f.1.find? (members style fields) =
      if style.omitNull && f.2.isNull then none else some (f.1.spelled style.spelling, f.2) := by
  have hkey : ∀ f ∈ fields, f.1 ∈ fields.map Prod.fst := fun f hf => List.mem_map_of_mem hf
  by_cases homit : (style.omitNull && f.2.isNull) = true
  · rw [if_pos homit, Key.find?_eq_none_iff]
    intro m hm hs
    obtain ⟨f', hf', hkept, rfl⟩ := mem_members.1 hm
    have hsame := h.eq_of_spells (hkey f hf) (hkey f' hf') hs (f'.1.spells_spelled _)
    obtain rfl := eq_of_key_eq h hf hf' hsame
    rw [homit] at hkept
    cases hkept
  · rw [if_neg homit]
    have hm : (f.1.spelled style.spelling, f.2) ∈ members style fields :=
      mem_members.2 ⟨f, hf, Bool.eq_false_iff.2 homit, rfl⟩
    exact (oneEach_members h).find?_of_mem (hkey f hf) hm (f.1.spells_spelled _)

theorem strangers_members : strangers (fields.map Prod.fst) (members style fields) = [] := by
  rw [(oneEach_members h).strangers_eq, List.map_eq_nil_iff, List.filter_eq_nil_iff]
  intro m hm
  obtain ⟨f, hf, -, rfl⟩ := mem_members.1 hm
  simpa using ⟨f.1, ⟨f.2, hf⟩, f.1.spells_spelled _⟩

variable {α : Type} {k : Key} {v : Json} {a : α} {read : Json → Checked α}

theorem required_members (hf : (k, v) ∈ fields) (hnull : v.isNull = false)
    (hread : read v = .accepted a) : required k read (members style fields) = .accepted a := by
  have hfind : k.find? (members style fields) = some (k.spelled style.spelling, v) := by
    rw [find?_members h hf, hnull, Bool.and_false]
    rfl
  unfold required
  rw [hfind]
  exact Checked.under_eq_accepted.2 hread

/-- Leaving a field out says the same as `null`, if that is what its absence means. -/
theorem field_members (hf : (k, v) ∈ fields) {absent : α} (hread : read v = .accepted a)
    (hnull : v = .null → a = absent) :
    field k absent read (members style fields) = .accepted a := by
  have hfind : k.find? (members style fields) = _ := find?_members h hf
  unfold field
  by_cases homit : (style.omitNull && v.isNull) = true
  · rw [if_pos homit] at hfind
    rw [hfind]
    have hv : v.isNull = true := (Bool.and_eq_true_iff.1 homit).2
    rw [hnull (Json.isNull_iff.1 hv)]
  · rw [if_neg homit] at hfind
    rw [hfind]
    exact Checked.under_eq_accepted.2 hread

/-- An optional field of values that are never `null`. -/
theorem optional_members {o : Option α} {write : α → Json}
    (hf : (k, Json.orNull write o) ∈ fields) (hnull : ∀ a, (write a).isNull = false)
    (hread : ∀ a, o = some a → read (write a) = .accepted a) :
    field k none (Read.optional read) (members style fields) = .accepted o := by
  refine field_members h hf (Read.optional_orNull hread hnull) fun hwritten => ?_
  cases o with
  | none => rfl
  | some a =>
    have hsome := hnull a
    rw [show write a = .null from hwritten] at hsome
    cases hsome

/-- A record reads back if its fields do. -/
theorem read_write_of_members {title : String} {fieldsOf : Members → Checked α}
    (hread : fieldsOf (members style fields) = .accepted a) :
    Record.read title (fields.map Prod.fst) fieldsOf (write style fields) = .accepted a := by
  show fieldsOf (members style fields) <*
    Checked.none? (strangers (fields.map Prod.fst) (members style fields)) = .accepted a
  rw [hread, strangers_members h]
  rfl

end Members

end Record

open Record

/-! ## The records of a request -/

namespace DateRange

def fields (r : DateRange) : List (Key × Json) :=
  [(startKey, .str r.start), (finishKey, .str r.finish)]

theorem apart_fields (r : DateRange) : Apart (r.fields.map Prod.fst) :=
  apart_keys

theorem read_write (style : Style) (r : DateRange) : read (r.write style) = .accepted r := by
  refine read_write_of_members r.apart_fields ?_
  rw [required_members r.apart_fields (by simp [fields]) rfl (Read.text_str r.start),
    required_members r.apart_fields (by simp [fields]) rfl (Read.text_str r.finish)]
  rfl

end DateRange

namespace SortKey

def fields (k : SortKey) : List (Key × Json) :=
  [(slugKey, .str k.slug), (directionKey, .str k.direction.name)]

theorem apart_fields (k : SortKey) : Apart (k.fields.map Prod.fst) :=
  apart_keys

theorem read_write (style : Style) (k : SortKey) : read (k.write style) = .accepted k := by
  have hdirection : Read.choice Direction.all Direction.name (.str k.direction.name) =
      .accepted k.direction := Read.choice_name (by decide) k.direction.mem_all
  refine read_write_of_members k.apart_fields ?_
  rw [required_members k.apart_fields (by simp [fields]) rfl (Read.text_str k.slug),
    field_members k.apart_fields (by simp [fields]) hdirection nofun]
  rfl

end SortKey

namespace FilterFields

def fields (f : FilterFields) : List (Key × Json) :=
  [(Filter.slugKey, .str f.slug), (Filter.operatorKey, .str f.operator.name),
    (Filter.valueKey, f.value), (Filter.valuesKey, .orNull .arr f.values),
    (Filter.rangeStartKey, f.rangeStart), (Filter.rangeEndKey, f.rangeEnd)]

theorem apart_fields (f : FilterFields) : Apart (f.fields.map Prod.fst) :=
  Filter.apart_keys

theorem readFields_write (style : Style) (f : FilterFields) :
    Filter.readFields (Record.write style f.fields) = .accepted f := by
  have hoperator : Read.choice Operator.all Operator.name (.str f.operator.name) =
      .accepted f.operator := Read.choice_name (by decide) f.operator.mem_all
  have hoperand : ∀ v, Read.anything v = .accepted v := fun _ => rfl
  refine read_write_of_members f.apart_fields ?_
  rw [required_members f.apart_fields (by simp [fields]) rfl (Read.text_str f.slug),
    required_members f.apart_fields (by simp [fields]) rfl hoperator,
    field_members f.apart_fields (by simp [fields]) (hoperand f.value) id,
    optional_members f.apart_fields (o := f.values) (by simp [fields]) (fun _ => rfl)
      fun l _ => Read.list_anything l,
    field_members f.apart_fields (by simp [fields]) (hoperand f.rangeStart) id,
    field_members f.apart_fields (by simp [fields]) (hoperand f.rangeEnd) id]
  rfl

/-- The fields that write a filter are taken for that filter. -/
theorem toFilter_ofFilter (f : Filter) : (ofFilter f).toFilter = .accepted f := by
  have hnull : Operand.ofJson? .null = none := rfl
  obtain ⟨slug, c⟩ := f
  cases c <;> simp [toFilter, ofFilter, condition, Condition.operator, single?, hnull, Except.map]

end FilterFields

theorem Filter.read_write (style : Style) (f : Filter) : read (f.write style) = .accepted f := by
  have hfields : readFields (f.write style) = .accepted (FilterFields.ofFilter f) :=
    (FilterFields.ofFilter f).readFields_write style
  rw [read, hfields]
  exact FilterFields.toFilter_ofFilter f

namespace Plan

def fields (style : Style) (p : Plan) : List (Key × Json) :=
  [(metricsKey, .arr (p.metrics.map .str)), (dimensionsKey, .arr (p.dimensions.map .str)),
    (filtersKey, .arr (p.filters.map (Filter.write style))),
    (dateRangeKey, .orNull (DateRange.write style) p.dateRange),
    (bucketKey, .orNull (fun b => .str b.name) p.bucket),
    (sortKey, .orNull (fun ks => .arr (ks.map (SortKey.write style))) p.sort),
    (limitKey, .orNull .int p.limit)]

theorem apart_fields (style : Style) (p : Plan) : Apart ((p.fields style).map Prod.fst) :=
  apart_keys

theorem read_write (style : Style) (p : Plan) : read (p.write style) = .accepted p := by
  have hapart := p.apart_fields style
  have htexts : ∀ l : List String, Read.list Read.text (.arr (l.map .str)) = .accepted l :=
    fun _ => Read.list_map fun s _ => Read.text_str s
  have hfilters : Read.list Filter.read (.arr (p.filters.map (Filter.write style))) =
      .accepted p.filters := Read.list_map fun f _ => f.read_write style
  refine read_write_of_members hapart ?_
  rw [field_members hapart (by simp [fields]) (htexts p.metrics) nofun,
    field_members hapart (by simp [fields]) (htexts p.dimensions) nofun,
    field_members hapart (by simp [fields]) hfilters nofun,
    optional_members hapart (o := p.dateRange) (by simp [fields]) (fun _ => rfl)
      fun r _ => r.read_write style,
    optional_members hapart (o := p.bucket) (by simp [fields]) (fun _ => rfl)
      fun b _ => Read.choice_name (by decide) b.mem_all,
    optional_members hapart (o := p.sort) (by simp [fields]) (fun _ => rfl)
      fun ks _ => Read.list_map fun k _ => k.read_write style,
    optional_members hapart (o := p.limit) (by simp [fields]) (fun _ => rfl)
      fun n _ => Read.integer_int n]
  rfl

end Plan

namespace Request

/-- A request for a tenant that has a name, and with a bound on its dates, if it has one, that
allows something. -/
structure Valid (r : Request) : Prop where
  tenant : Text.isBlank r.tenant = false
  maxDays : ∀ n, r.maxDays = some n → 1 ≤ n

theorem blank_of_readTenant {v : Json} {s : String} (h : readTenant v = .accepted s) :
    Text.isBlank s = false := by
  obtain ⟨t, -, ht⟩ := Checked.andThen_eq_accepted.1 h
  by_cases hblank : Text.isBlank t = true
  · simp [hblank, Checked.fail] at ht
  · simp only [hblank, if_false, Bool.false_eq_true, Checked.accepted.injEq] at ht
    rw [← ht]
    exact Bool.eq_false_iff.2 hblank

def fields (style : Style) (r : Request) : List (Key × Json) :=
  [(planKey, r.plan.write style), (tenantKey, .str r.tenant),
    (locationKey, .orNull .str r.location), (maxDaysKey, .orNull .int r.maxDays),
    (lensKey, .orNull .str r.lens)]

theorem apart_fields (style : Style) (r : Request) : Apart ((r.fields style).map Prod.fst) :=
  apart_keys

theorem read_write {r : Request} (h : r.Valid) (style : Style) :
    read (r.write style) = .accepted r := by
  have hapart := r.apart_fields style
  have htenant : readTenant (.str r.tenant) = .accepted r.tenant := by
    simp [readTenant, Read.text_str, Checked.andThen, h.tenant]
  refine read_write_of_members hapart ?_
  rw [required_members hapart (by simp [fields]) rfl (r.plan.read_write style),
    required_members hapart (by simp [fields]) rfl htenant,
    optional_members hapart (o := r.location) (by simp [fields]) (fun _ => rfl)
      fun s _ => Read.text_str s,
    optional_members hapart (o := r.maxDays) (by simp [fields]) (fun _ => rfl)
      fun n hn => Read.positive_int (h.maxDays n hn),
    optional_members hapart (o := r.lens) (by simp [fields]) (fun _ => rfl)
      fun s _ => Read.text_str s]
  rfl

/-- Nothing else is read. -/
theorem valid_of_read {v : Json} {r : Request} (h : read v = .accepted r) : r.Valid := by
  obtain ⟨ms, rfl, hfields⟩ := exists_members_of_read h
  obtain ⟨_, _, htoMaxDays, -, rfl⟩ := Checked.seq_eq_accepted.1 hfields
  obtain ⟨_, maxDays, htoLocation, hmaxDays, rfl⟩ := Checked.seq_eq_accepted.1 htoMaxDays
  obtain ⟨_, _, htoTenant, -, rfl⟩ := Checked.seq_eq_accepted.1 htoLocation
  obtain ⟨_, tenant, hplan, htenant, rfl⟩ := Checked.seq_eq_accepted.1 htoTenant
  obtain ⟨_, -, rfl⟩ := Checked.map_eq_accepted.1 hplan
  constructor
  · obtain ⟨v, hv⟩ := exists_of_required htenant
    exact blank_of_readTenant hv
  · rintro n rfl
    obtain ⟨v, hv⟩ := exists_of_optional hmaxDays
    exact Read.one_le_of_positive hv

end Request

/-! ## Round trips -/

/-- `read` and `write` lose nothing between them, whatever the style. -/
structure Record.RoundTrips {α : Type} (Valid : α → Prop) (read : Json → Checked α)
    (write : Style → α → Json) : Prop where
  readable : ∀ a, (∃ v, read v = .accepted a) ↔ Valid a
  read_write : ∀ v a, read v = .accepted a → ∀ style, read (write style a) = .accepted a
  /-- What was read and written is read and written as it stands. -/
  settled : ∀ style v w, write style <$> read v = .accepted w →
    write style <$> read w = .accepted w

theorem Record.RoundTrips.of_valid {α : Type} {Valid : α → Prop} {read : Json → Checked α}
    {write : Style → α → Json} (hvalid : ∀ v a, read v = .accepted a → Valid a)
    (hread : ∀ style a, Valid a → read (write style a) = .accepted a) :
    RoundTrips Valid read write where
  readable a := by
    constructor
    · rintro ⟨v, hv⟩
      exact hvalid v a hv
    · intro ha
      exact ⟨write ⟨.camel, false⟩ a, hread _ a ha⟩
  read_write v a hv style := hread style a (hvalid v a hv)
  settled style v w hw := by
    obtain ⟨a, ha, rfl⟩ := Checked.map_eq_accepted.1 hw
    rw [hread style a (hvalid v a ha)]
    rfl

/-- **Records read back as they were written.** -/
theorem roundTrips_records :
    RoundTrips Request.Valid Request.read Request.write ∧
      RoundTrips (fun _ => True) Plan.read Plan.write ∧
      RoundTrips (fun _ => True) Filter.read Filter.write ∧
      RoundTrips (fun _ => True) DateRange.read DateRange.write ∧
      RoundTrips (fun _ => True) SortKey.read SortKey.write := by
  refine ⟨.of_valid ?_ ?_, .of_valid ?_ ?_, .of_valid ?_ ?_, .of_valid ?_ ?_, .of_valid ?_ ?_⟩
  · exact fun _ _ h => Request.valid_of_read h
  · exact fun style _ h => Request.read_write h style
  · exact fun _ _ _ => trivial
  · exact fun style p _ => p.read_write style
  · exact fun _ _ _ => trivial
  · exact fun style f _ => f.read_write style
  · exact fun _ _ _ => trivial
  · exact fun style r _ => r.read_write style
  · exact fun _ _ _ => trivial
  · exact fun style k _ => k.read_write style

/-- Both spellings are settled, and so are numbers given as text; `null` among choices stays. -/
example :
    Plan.write ⟨.camel, true⟩ <$> Plan.read (.obj
        [("limit", .str " +05 "), ("time_granularity", .null),
          ("filters", .arr [.obj
            [("dimension_slug", .str "region"), ("operator", .str "in"),
              ("values", .arr [.null, .int 1])]])]) =
      .accepted (.obj
        [("metrics", .arr []), ("dimensions", .arr []),
          ("filters", .arr [.obj
            [("dimensionSlug", .str "region"), ("operator", .str "in"),
              ("values", .arr [.null, .int 1])]]), ("limit", .int 5)]) := by
  rfl

end MetricQuery
