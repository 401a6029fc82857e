import MetricQuery.Proofs.Spelling
import Mathlib.Data.List.Forall2

/-!
# Both spellings of keys read alike

**Theorem (`alike_of_respelled`).** Rename the fields of a request, or of a plan, from one spelling
to the other, in any of the records it is made of. It is then read as the same request, or fails
with the same problems in the same order, each at the same place.

Records are nested, and each may spell its keys in its own way. `Record.Respelled` is one record; it
is told how the values of its fields are respelled in turn (`Plan.Part`, `Request.Part`). Operands
of filters are no records, whatever is in them, so they stay. A place is a path of names, and the
names differ: `SamePlace` goes down both values at once, through members at the same position.

A reader that reads respelled values alike is `Insensitive`. Fields find members at one position
(`find?_cases`), and the members left over are at the same positions too (`strangers_alike`), so a
record of such readers is such a reader (`insensitive_read`).
-/

namespace MetricQuery

open Record

/-! ## Places -/

/-- Two paths lead to the same place in two values: through members at the same position, whatever
their names, and through items at the same position. -/
inductive SamePlace : Json → Json → List Step → List Step → Prop
  | here (v v' : Json) : SamePlace v v' [] []
  | same (v : Json) (p : List Step) : SamePlace v v p p
  /-- A member that is missing has no position; it is missing under one name. -/
  | absent {ms ms' : Members} {n : String} (h : ∀ m ∈ ms, m.1 ≠ n) (h' : ∀ m ∈ ms', m.1 ≠ n) :
      SamePlace (.obj ms) (.obj ms') [.key n] [.key n]
  | member {ms ms' : Members} {m m' : String × Json} {p p' : List Step}
      (h : (m, m') ∈ ms.zip ms') (hp : SamePlace m.2 m'.2 p p') :
      SamePlace (.obj ms) (.obj ms') (.key m.1 :: p) (.key m'.1 :: p')
  | item {vs vs' : List Json} {v v' : Json} {i : Nat} {p p' : List Step}
      (h : (vs.zip vs')[i]? = some (v, v')) (hp : SamePlace v v' p p') :
      SamePlace (.arr vs) (.arr vs') (.index i :: p) (.index i :: p')

/-- The same problem at the same place. -/
structure Issue.Alike (v v' : Json) (i i' : Issue) : Prop where
  problem : i.problem = i'.problem
  place : SamePlace v v' i.path i'.path

namespace Checked

variable {α β : Type}

/-- Two values give the same, or the same issues in the same order. -/
inductive Alike (v v' : Json) : Checked α → Checked α → Prop
  | accepted (a : α) : Alike v v' (.accepted a) (.accepted a)
  | rejected {is is' : List Issue} (h : List.Forall₂ (Issue.Alike v v') is is') :
      Alike v v' (.rejected is) (.rejected is')

namespace Alike

variable {v v' : Json}

theorem refl (v : Json) (x : Checked α) : Alike v v x x := by
  cases x with
  | accepted a => exact .accepted a
  | rejected is => exact .rejected (List.forall₂_same.2 fun i _ => ⟨rfl, .same v i.path⟩)

theorem fail (problem : Problem) : Alike v v' (Checked.fail problem : Checked α) (.fail problem) :=
  .rejected (.cons ⟨rfl, .here v v'⟩ .nil)

theorem map {x x' : Checked α} (f : α → β) (h : Alike v v' x x') :
    Alike v v' (f <$> x) (f <$> x') := by
  cases h with
  | accepted a => exact .accepted (f a)
  | rejected h => exact .rejected h

theorem seq {f f' : Checked (α → β)} {x x' : Checked α} (hf : Alike v v' f f')
    (hx : Alike v v' x x') : Alike v v' (f <*> x) (f' <*> x') := by
  cases hf with
  | accepted g => exact hx.map g
  | rejected hf =>
    cases hx with
    | accepted a => exact .rejected hf
    | rejected hx => exact .rejected (List.rel_append hf hx)

theorem seqLeft {x x' : Checked α} {y y' : Checked β} (hx : Alike v v' x x')
    (hy : Alike v v' y y') : Alike v v' (x <* y) (x' <* y') :=
  (hx.map (Function.const β)).seq hy

theorem andThen {x x' : Checked α} {f : α → Checked β} (hx : Alike v v' x x')
    (hf : ∀ a, Alike v v' (f a) (f a)) : Alike v v' (x.andThen f) (x'.andThen f) := by
  cases hx with
  | accepted a => exact hf a
  | rejected h => exact .rejected h

theorem none? {is is' : List Issue} (h : List.Forall₂ (Issue.Alike v v') is is') :
    Alike v v' (Checked.none? is) (Checked.none? is') := by
  cases h with
  | nil => exact .accepted ()
  | cons hi his => exact .rejected (.cons hi his)

theorem member {ms ms' : Members} {m m' : String × Json} {x x' : Checked α}
    (hzip : (m, m') ∈ ms.zip ms') (h : Alike m.2 m'.2 x x') :
    Alike (.obj ms) (.obj ms') (x.under (.key m.1)) (x'.under (.key m'.1)) := by
  cases h with
  | accepted a => exact .accepted a
  | rejected h =>
    refine .rejected (List.rel_map (fun i i' hi => ?_) h)
    exact ⟨hi.problem, .member hzip hi.place⟩

theorem item {vs vs' : List Json} {i : Nat} {x x' : Checked α}
    (hzip : (vs.zip vs')[i]? = some (v, v')) (h : Alike v v' x x') :
    Alike (.arr vs) (.arr vs') (x.under (.index i)) (x'.under (.index i)) := by
  cases h with
  | accepted a => exact .accepted a
  | rejected h =>
    refine .rejected (List.rel_map (fun i i' hi => ?_) h)
    exact ⟨hi.problem, .item hzip hi.place⟩

end Alike

end Checked

/-! ## Respelled values -/

namespace Record

variable {keys : List Key} {R : Key → Json → Json → Prop}

/-- A member under another spelling of its key, with its value respelled in its own way. A member
that is no field stays as it is. -/
inductive RespelledMember (keys : List Key) (R : Key → Json → Json → Prop) :
    String × Json → String × Json → Prop
  | field {k : Key} {m m' : String × Json} (hk : k ∈ keys) (hs : k.Spells m.1)
      (hs' : k.Spells m'.1) (hv : R k m.2 m'.2) : RespelledMember keys R m m'
  | stranger {m : String × Json} (h : ∀ k ∈ keys, ¬ k.Spells m.1) : RespelledMember keys R m m

theorem RespelledMember.spelled {k : Key} {v v' : Json} (hk : k ∈ keys) (hv : R k v v')
    (s s' : Spelling) : RespelledMember keys R (k.spelled s, v) (k.spelled s', v') :=
  .field hk (k.spells_spelled s) (k.spells_spelled s') hv

/-- Members in the same order under other spellings, with no field under both. -/
structure RespelledMembers (keys : List Key) (R : Key → Json → Json → Prop)
    (ms ms' : Members) : Prop where
  members : List.Forall₂ (RespelledMember keys R) ms ms'
  oneEach : OneEach keys ms'

/-- A record under other spellings of its keys; `R` is how the values of its fields change. -/
inductive Respelled (keys : List Key) (R : Key → Json → Json → Prop) : Json → Json → Prop
  | same (v : Json) : Respelled keys R v v
  | members {ms ms' : Members} (h : RespelledMembers keys R ms ms') :
      Respelled keys R (.obj ms) (.obj ms')

/-- A list with its items respelled, each in its own way. -/
inductive RespelledList (R : Json → Json → Prop) : Json → Json → Prop
  | same (v : Json) : RespelledList R v v
  | items {vs vs' : List Json} (h : List.Forall₂ R vs vs') : RespelledList R (.arr vs) (.arr vs')

end Record

def DateRange.Respelled : Json → Json → Prop := Record.Respelled [startKey, finishKey] fun _ => Eq

def SortKey.Respelled : Json → Json → Prop := Record.Respelled [slugKey, directionKey] fun _ => Eq

def Filter.Respelled : Json → Json → Prop := Record.Respelled keys fun _ => Eq

/-- The values in a plan that are made of records are respelled in turn. -/
def Plan.Part (k : Key) : Json → Json → Prop :=
  if k = filtersKey then RespelledList Filter.Respelled
  else if k = dateRangeKey then DateRange.Respelled
  else if k = sortKey then RespelledList SortKey.Respelled
  else Eq

def Plan.Respelled : Json → Json → Prop := Record.Respelled keys Part

def Request.Part (k : Key) : Json → Json → Prop :=
  if k = planKey then Plan.Respelled else Eq

def Request.Respelled : Json → Json → Prop := Record.Respelled keys Part

/-! ## Insensitive readers -/

/-- The reader reads values alike that `R` relates. -/
def Read.Insensitive {α : Type} (R : Json → Json → Prop) (read : Json → Checked α) : Prop :=
  ∀ v v', R v v' → Checked.Alike v v' (read v) (read v')

namespace Read

variable {α : Type} {R : Json → Json → Prop} {read : Json → Checked α}

theorem insensitive_eq (read : Json → Checked α) : Insensitive Eq read := by
  rintro v _ rfl
  exact .refl v (read v)

/-- The items from position `i` on; what comes before stays in the path. -/
theorem items_alike (h : Insensitive R read) {vs vs' ws ws' : List Json} {i : Nat}
    (hws : List.Forall₂ R ws ws') (hdrop : (vs.zip vs').drop i = ws.zip ws') :
    Checked.Alike (.arr vs) (.arr vs') (items read i ws) (items read i ws') := by
  induction hws generalizing i with
  | nil => exact .accepted []
  | @cons w w' ws ws' hw _ ih =>
    have hhead : (vs.zip vs')[i]? = some (w, w') := by
      rw [← List.head?_drop, hdrop]
      rfl
    have htail : (vs.zip vs').drop (i + 1) = ws.zip ws' := by
      rw [← List.tail_drop, hdrop]
      rfl
    exact (((h w w' hw).item hhead).map List.cons).seq (ih htail)

theorem Insensitive.list (h : Insensitive R read) : Insensitive (RespelledList R) (list read) := by
  intro v v' hv
  cases hv with
  | same => exact .refl v _
  | items hvs => exact items_alike h hvs rfl

theorem Insensitive.optional (h : Insensitive R read)
    (hnull : ∀ v v', R v v' → v.isNull = v'.isNull) : Insensitive R (optional read) := by
  intro v v' hv
  rw [optional_eq, optional_eq, hnull v v' hv]
  by_cases hisNull : v'.isNull = true
  · rw [if_pos hisNull, if_pos hisNull]
    exact .accepted none
  · rw [if_neg hisNull, if_neg hisNull]
    exact (h v v' hv).map some

end Read

namespace Record

variable {keys : List Key} {R : Key → Json → Json → Prop}

theorem RespelledMember.spells_iff (hapart : Apart keys) {m m' : String × Json}
    (h : RespelledMember keys R m m') {k : Key} (hk : k ∈ keys) : k.Spells m.1 ↔ k.Spells m'.1 := by
  cases h with
  | stranger => rfl
  | field hl hs hs' _ =>
    constructor
    · intro h
      exact hapart.eq_of_spells hl hk hs h ▸ hs'
    · intro h
      exact hapart.eq_of_spells hl hk hs' h ▸ hs

theorem Respelled.isNull_eq {v v' : Json} (h : Respelled keys R v v') : v.isNull = v'.isNull := by
  cases h <;> rfl

theorem RespelledList.isNull_eq {R : Json → Json → Prop} {v v' : Json} (h : RespelledList R v v') :
    v.isNull = v'.isNull := by
  cases h <;> rfl

namespace RespelledMembers

variable {ms ms' : Members} (h : RespelledMembers keys R ms ms') (hapart : Apart keys)

include h

/-- Each member with the one it became, and their position. -/
theorem zipped :
    List.Forall₂ (fun m m' => (m, m') ∈ ms.zip ms' ∧ RespelledMember keys R m m') ms ms' := by
  obtain ⟨hlength, hzip⟩ := List.forall₂_iff_zip.1 h.members
  exact List.forall₂_iff_zip.2 ⟨hlength, fun hm => ⟨hm, hzip hm⟩⟩

theorem exists_right {m : String × Json} (hm : m ∈ ms) :
    ∃ m' ∈ ms', (m, m') ∈ ms.zip ms' ∧ RespelledMember keys R m m' := by
  obtain ⟨hlength, hzip⟩ := List.forall₂_iff_zip.1 h.members
  rw [← List.map_fst_zip (Nat.le_of_eq hlength)] at hm
  obtain ⟨⟨m, m'⟩, hmem, rfl⟩ := List.mem_map.1 hm
  exact ⟨m', (List.of_mem_zip hmem).2, hmem, hzip hmem⟩

theorem exists_left {m' : String × Json} (hm' : m' ∈ ms') :
    ∃ m ∈ ms, RespelledMember keys R m m' := by
  obtain ⟨hlength, hzip⟩ := List.forall₂_iff_zip.1 h.members
  rw [← List.map_snd_zip (Nat.le_of_eq hlength.symm)] at hm'
  obtain ⟨⟨m, m'⟩, hmem, rfl⟩ := List.mem_map.1 hm'
  exact ⟨m, (List.of_mem_zip hmem).1, hzip hmem⟩

include hapart

/-- No field is under two spellings before, either. -/
theorem oneEach_left : OneEach keys ms := by
  obtain ⟨hmembers, honeEach⟩ := h
  induction hmembers with
  | nil => exact .nil
  | @cons m m' rest rest' hm hrest ih =>
    obtain ⟨hfirst, hothers⟩ := List.pairwise_cons.1 honeEach
    refine List.pairwise_cons.2 ⟨fun w hw k hk hs hs' => ?_, ih hothers⟩
    obtain ⟨w', hw', -, hww'⟩ := exists_right ⟨hrest, hothers⟩ hw
    exact hfirst w' hw' k hk ((hm.spells_iff hapart hk).1 hs) ((hww'.spells_iff hapart hk).1 hs')

/-- A field is found at one position in both, or in neither. -/
theorem find?_cases {k : Key} (hk : k ∈ keys) :
    (k.find? ms = none ∧ k.find? ms' = none) ∨ ∃ m m', k.find? ms = some m ∧
      k.find? ms' = some m' ∧ (m, m') ∈ ms.zip ms' ∧ R k m.2 m'.2 := by
  cases hfind : k.find? ms with
  | none =>
    refine .inl ⟨rfl, Key.find?_eq_none_iff.2 fun m' hm' hs' => ?_⟩
    obtain ⟨m, hm, hmm'⟩ := h.exists_left hm'
    exact Key.find?_eq_none_iff.1 hfind m hm ((hmm'.spells_iff hapart hk).2 hs')
  | some m =>
    obtain ⟨hm, hs⟩ := Key.mem_of_find? hfind
    obtain ⟨m', hm', hzip, hmm'⟩ := h.exists_right hm
    refine .inr ⟨m, m', rfl, ?_, hzip, ?_⟩
    · exact h.oneEach.find?_of_mem hk hm' ((hmm'.spells_iff hapart hk).1 hs)
    · cases hmm' with
      | stranger hnone => exact absurd hs (hnone k hk)
      | field hl hsl _ hv => exact hapart.eq_of_spells hl hk hsl hs ▸ hv

variable {α : Type} {k : Key} {read : Json → Checked α}

theorem required_alike (hk : k ∈ keys) (hread : Read.Insensitive (R k) read) :
    Checked.Alike (.obj ms) (.obj ms') (required k read ms) (required k read ms') := by
  unfold required
  rcases h.find?_cases hapart hk with ⟨hnone, hnone'⟩ | ⟨m, m', hm, hm', hzip, hv⟩
  · have hcamel : ∀ {ms : Members}, k.find? ms = none → ∀ m ∈ ms, m.1 ≠ k.camel :=
      fun hnone m hm hname => Key.find?_eq_none_iff.1 hnone m hm (Key.spells_iff.2 (.inl hname))
    rw [hnone, hnone']
    exact .rejected (.cons ⟨rfl, .absent (hcamel hnone) (hcamel hnone')⟩ .nil)
  · rw [hm, hm']
    exact (hread m.2 m'.2 hv).member hzip

theorem field_alike (hk : k ∈ keys) (hread : Read.Insensitive (R k) read) {absent : α} :
    Checked.Alike (.obj ms) (.obj ms') (field k absent read ms) (field k absent read ms') := by
  unfold field
  rcases h.find?_cases hapart hk with ⟨hnone, hnone'⟩ | ⟨m, m', hm, hm', hzip, hv⟩
  · rw [hnone, hnone']
    exact .accepted absent
  · rw [hm, hm']
    exact (hread m.2 m'.2 hv).member hzip

theorem strangers_alike :
    List.Forall₂ (Issue.Alike (.obj ms) (.obj ms')) (strangers keys ms) (strangers keys ms') := by
  rw [(h.oneEach_left hapart).strangers_eq, h.oneEach.strangers_eq]
  refine List.rel_map (R := fun m m' => (m, m') ∈ ms.zip ms' ∧ RespelledMember keys R m m') ?_ ?_
  · rintro m m' ⟨hzip, -⟩
    exact ⟨rfl, .member hzip (.here _ _)⟩
  · refine List.rel_filter ?_ h.zipped
    rintro m m' ⟨-, hmm'⟩
    simp only [decide_eq_true_iff]
    refine not_congr (exists_congr fun k => and_congr_right fun hk => ?_)
    exact hmm'.spells_iff hapart hk

end RespelledMembers

/-- A record reads respelled objects alike if its fields do. -/
theorem insensitive_read {α : Type} (hapart : Apart keys) {title : String}
    {fields : Members → Checked α} (hfields : ∀ ms ms', RespelledMembers keys R ms ms' →
      Checked.Alike (.obj ms) (.obj ms') (fields ms) (fields ms')) :
    Read.Insensitive (Respelled keys R) (Record.read title keys fields) := by
  intro v v' hv
  cases hv with
  | same => exact .refl v _
  | @members ms ms' h => exact (hfields ms ms' h).seqLeft (.none? (h.strangers_alike hapart))

end Record

/-! ## The records of a request -/

theorem DateRange.insensitive_read : Read.Insensitive Respelled read := by
  refine Record.insensitive_read apart_keys fun ms ms' h => ?_
  exact ((h.required_alike apart_keys (by simp) (Read.insensitive_eq _)).map DateRange.mk).seq
    (h.required_alike apart_keys (by simp) (Read.insensitive_eq _))

theorem SortKey.insensitive_read : Read.Insensitive Respelled read := by
  refine Record.insensitive_read apart_keys fun ms ms' h => ?_
  exact ((h.required_alike apart_keys (by simp) (Read.insensitive_eq _)).map SortKey.mk).seq
    (h.field_alike apart_keys (by simp) (Read.insensitive_eq _))

theorem Filter.insensitive_readFields : Read.Insensitive Respelled readFields := by
  refine Record.insensitive_read apart_keys fun ms ms' h => ?_
  have hoperand : ∀ k ∈ keys, Checked.Alike (.obj ms) (.obj ms')
      (field k .null Read.anything ms) (field k .null Read.anything ms') :=
    fun k hk => h.field_alike apart_keys hk (Read.insensitive_eq Read.anything)
  refine ((((((h.required_alike apart_keys ?_ (Read.insensitive_eq Read.text)).map
    FilterFields.mk).seq ?_).seq (hoperand valueKey ?_)).seq ?_).seq
    (hoperand rangeStartKey ?_)).seq (hoperand rangeEndKey ?_)
  · decide
  · exact h.required_alike apart_keys (by decide) (Read.insensitive_eq _)
  · decide
  · exact h.field_alike apart_keys (by decide) (Read.insensitive_eq _)
  · decide
  · decide

/-- The rule for operands is about the filter as a whole, not about one of its keys. -/
theorem Filter.insensitive_read : Read.Insensitive Respelled read := by
  intro v v' hv
  refine (insensitive_readFields v v' hv).andThen fun f => ?_
  unfold FilterFields.toFilter
  split
  · exact .accepted _
  · exact .fail _

namespace Plan

theorem insensitive_part {α : Type} {k : Key} (hk : k ∉ [filtersKey, dateRangeKey, sortKey])
    (read : Json → Checked α) : Read.Insensitive (Part k) read := by
  have hpart : Part k = Eq := by
    simp only [List.mem_cons, List.not_mem_nil, or_false, not_or] at hk
    rw [Part, if_neg hk.1, if_neg hk.2.1, if_neg hk.2.2]
  rw [hpart]
  exact Read.insensitive_eq read

theorem insensitive_read : Read.Insensitive Respelled read := by
  refine Record.insensitive_read apart_keys fun ms ms' h => ?_
  have hnames : ∀ k ∈ keys, k ∉ [filtersKey, dateRangeKey, sortKey] →
      Checked.Alike (.obj ms) (.obj ms') (field k [] (Read.list Read.text) ms)
        (field k [] (Read.list Read.text) ms') :=
    fun k hk hplain => h.field_alike apart_keys hk (insensitive_part hplain _)
  have hfilters : Read.Insensitive (Part filtersKey) (Read.list Filter.read) :=
    Filter.insensitive_read.list
  have hdateRange : Read.Insensitive (Part dateRangeKey) (Read.optional DateRange.read) :=
    DateRange.insensitive_read.optional fun _ _ hv => hv.isNull_eq
  have hsort : Read.Insensitive (Part sortKey) (Read.optional (Read.list SortKey.read)) :=
    SortKey.insensitive_read.list.optional fun _ _ hv => hv.isNull_eq
  refine (((((((hnames metricsKey (by decide) (by decide)).map Plan.mk).seq
    (hnames dimensionsKey (by decide) (by decide))).seq ?_).seq ?_).seq ?_).seq ?_).seq ?_
  · exact h.field_alike apart_keys (by decide) hfilters
  · exact h.field_alike apart_keys (by decide) hdateRange
  · exact h.field_alike apart_keys (by decide) (insensitive_part (by decide) _)
  · exact h.field_alike apart_keys (by decide) hsort
  · exact h.field_alike apart_keys (by decide) (insensitive_part (by decide) _)

end Plan

namespace Request

theorem insensitive_part {α : Type} {k : Key} (hk : k ≠ planKey) (read : Json → Checked α) :
    Read.Insensitive (Part k) read := by
  have hpart : Part k = Eq := if_neg hk
  rw [hpart]
  exact Read.insensitive_eq read

theorem insensitive_read : Read.Insensitive Respelled read := by
  have hplan : Read.Insensitive (Part planKey) Plan.read := Plan.insensitive_read
  refine Record.insensitive_read apart_keys fun ms ms' h => ?_
  refine (((((h.required_alike apart_keys (by decide) hplan).map Request.mk).seq ?_).seq ?_).seq
    ?_).seq ?_
  · exact h.required_alike apart_keys (by decide) (insensitive_part (by decide) readTenant)
  · exact h.field_alike apart_keys (by decide) (insensitive_part (by decide) _)
  · exact h.field_alike apart_keys (by decide) (insensitive_part (by decide) _)
  · exact h.field_alike apart_keys (by decide) (insensitive_part (by decide) _)

end Request

/-- **Both spellings of keys read alike.** -/
theorem alike_of_respelled :
    (∀ v v', Request.Respelled v v' →
      Checked.Alike v v' (Request.read v) (Request.read v')) ∧
    ∀ v v', Plan.Respelled v v' → Checked.Alike v v' (Plan.read v) (Plan.read v') :=
  ⟨Request.insensitive_read, Plan.insensitive_read⟩

/-- A filter with a number for its slug and with an object for an operand. -/
def faultyFilter (s : Spelling) : Json :=
  .obj [(Filter.slugKey.spelled s, .int 1), (Filter.operatorKey.spelled s, .str "eq"),
    (Filter.rangeEndKey.spelled s, .obj [("rangeEnd", .null)])]

/-- A plan with that filter, half a range of dates and a key that no plan has. -/
def faultyPlan (s t : Spelling) : Json :=
  .obj [("sortBy", .null), (Plan.dateRangeKey.spelled s, .obj [("start", .str "2026-01-01")]),
    (Plan.filtersKey.spelled s, .arr [faultyFilter t])]

/-- A request for that plan, and for nobody. -/
def faultyRequest (s t : Spelling) : Json :=
  .obj [(Request.tenantKey.spelled s, .str " "), (Request.planKey.spelled s, faultyPlan t s)]

theorem alike_faultyRequest :
    Request.Respelled (faultyRequest .camel .snake) (faultyRequest .snake .camel) ∧
      Checked.Alike (faultyRequest .camel .snake) (faultyRequest .snake .camel)
        (Request.read (faultyRequest .camel .snake))
        (Request.read (faultyRequest .snake .camel)) ∧
      (Request.read (faultyRequest .snake .camel)).issues =
        [⟨[.key "plan", .key "filters", .index 0, .key "dimension_slug"], .notText⟩,
          ⟨[.key "plan", .key "dateRange", .key "end"], .missing⟩,
          ⟨[.key "plan", .key "sortBy"], .unknownKey⟩,
          ⟨[.key "tenant_id"], .againstRule "tenantId is required"⟩] := by
  have hfilter : Filter.Respelled (faultyFilter .camel) (faultyFilter .snake) := by
    refine .members ⟨.cons ?_ (.cons ?_ (.cons ?_ .nil)), by decide⟩
    · exact .spelled (by simp [Filter.keys]) rfl _ _
    · exact .spelled (by simp [Filter.keys]) rfl _ _
    · exact .spelled (by simp [Filter.keys]) rfl _ _
  have hplan : Plan.Respelled (faultyPlan .snake .camel) (faultyPlan .camel .snake) := by
    refine .members ⟨.cons ?_ (.cons ?_ (.cons ?_ .nil)), by decide⟩
    · exact .stranger (by decide)
    · exact .spelled (by simp [Plan.keys]) (.same _) _ _
    · exact .spelled (by simp [Plan.keys]) (.items (.cons hfilter .nil)) _ _
  have hrequest :
      Request.Respelled (faultyRequest .camel .snake) (faultyRequest .snake .camel) := by
    refine .members ⟨.cons ?_ (.cons ?_ .nil), by decide⟩
    · exact .spelled (by simp [Request.keys]) rfl _ _
    · exact .spelled (by simp [Request.keys]) hplan _ _
  exact ⟨hrequest, alike_of_respelled.1 _ _ hrequest, by rfl⟩

end MetricQuery
