import MetricQuery.Request
import Mathlib.Data.List.Pairwise

/-!
# Fields and the names of members

A field is looked up under its camel name first and then under its snake name, and what is left over
depends on what was found for all fields. In an object that gives no field twice (`OneEach`) this is
simpler, if no name is one of two keys (`Apart`). A field is the member whose name spells its key
(`find?_of_mem`), and the members left over are those whose names spell no key (`strangers_eq`).
-/

namespace MetricQuery

namespace Key

variable {k : Key} {name : String}

def names (k : Key) : List String := [k.camel, k.snake]

/-- The name is one of the two of the key. -/
def Spells (k : Key) (name : String) : Prop := name ∈ k.names

instance : Decidable (k.Spells name) := inferInstanceAs (Decidable (name ∈ k.names))

theorem spells_iff : k.Spells name ↔ name = k.camel ∨ name = k.snake := by
  simp [Spells, names]

theorem spells_spelled (k : Key) (s : Spelling) : k.Spells (k.spelled s) := by
  rw [spells_iff]
  cases s with
  | camel => exact .inl rfl
  | snake => exact .inr rfl

/-- The member found has a name of the key, and it is a member. -/
theorem mem_of_find? {ms : Members} {m : String × Json} (h : k.find? ms = some m) :
    m ∈ ms ∧ k.Spells m.1 := by
  have hmem : ∀ {n v}, ms.lookup n = some v → (n, v) ∈ ms := by
    intro n v hv
    obtain ⟨before, after, rfl, -⟩ := List.lookup_eq_some_iff.1 hv
    simp
  unfold find? at h
  split at h
  · next v hv =>
    obtain rfl := Option.some.inj h
    exact ⟨hmem hv, spells_iff.2 (.inl rfl)⟩
  · obtain ⟨v, hv, rfl⟩ := Option.map_eq_some_iff.1 h
    exact ⟨hmem hv, spells_iff.2 (.inr rfl)⟩

/-- Nothing is found exactly if no member has a name of the key. -/
theorem find?_eq_none_iff {ms : Members} : k.find? ms = none ↔ ∀ m ∈ ms, ¬ k.Spells m.1 := by
  have hlookup : ∀ n, ms.lookup n = none ↔ ∀ m ∈ ms, m.1 ≠ n := by
    intro n
    rw [List.lookup_eq_none_iff]
    refine forall₂_congr fun m _ => ?_
    rw [bne_iff_ne, ne_comm]
  constructor
  · intro h
    unfold find? at h
    split at h
    · cases h
    · next hcamel =>
      have hsnake := Option.map_eq_none_iff.1 h
      intro m hm hspells
      rcases spells_iff.1 hspells with hname | hname
      · exact (hlookup _).1 hcamel m hm hname
      · exact (hlookup _).1 hsnake m hm hname
  · intro h
    have hcamel : ms.lookup k.camel = none :=
      (hlookup _).2 fun m hm hname => h m hm (spells_iff.2 (.inl hname))
    have hsnake : ms.lookup k.snake = none :=
      (hlookup _).2 fun m hm hname => h m hm (spells_iff.2 (.inr hname))
    simp [find?, hcamel, hsnake]

end Key

namespace Record

variable {keys : List Key} {ms : Members}

/-! ## Keys that share no name -/

/-- No name is one of two keys. -/
def Apart (keys : List Key) : Prop := keys.Pairwise fun k l => ∀ n ∈ k.names, n ∉ l.names

instance : Decidable (Apart keys) := inferInstanceAs (Decidable (List.Pairwise _ _))

theorem Apart.eq_of_spells (h : Apart keys) {k l : Key} (hk : k ∈ keys) (hl : l ∈ keys)
    {name : String} (hkn : k.Spells name) (hln : l.Spells name) : k = l := by
  have hsymm : Std.Symm fun k l : Key => ∀ n ∈ k.names, n ∉ l.names :=
    ⟨fun _ _ h n hl hk => h n hk hl⟩
  by_contra hne
  exact h.forall hk hl hne name hkn hln

/-! ## Objects that give no field twice -/

/-- No two members have names of one key. -/
def OneEach (keys : List Key) (ms : Members) : Prop :=
  ms.Pairwise fun m m' => ∀ k ∈ keys, k.Spells m.1 → ¬ k.Spells m'.1

instance : Decidable (OneEach keys ms) := inferInstanceAs (Decidable (List.Pairwise _ _))

theorem OneEach.eq_of_spells (h : OneEach keys ms) {k : Key} (hk : k ∈ keys)
    {m m' : String × Json} (hm : m ∈ ms) (hm' : m' ∈ ms) (hs : k.Spells m.1)
    (hs' : k.Spells m'.1) : m = m' := by
  have hsymm : Std.Symm fun m m' : String × Json =>
      ∀ k ∈ keys, k.Spells m.1 → ¬ k.Spells m'.1 :=
    ⟨fun _ _ h k hk hs' hs => h k hk hs hs'⟩
  by_contra hne
  exact List.Pairwise.forall h hm hm' hne k hk hs hs'

/-- The member with a name of the key is the one found. -/
theorem OneEach.find?_of_mem (h : OneEach keys ms) {k : Key} (hk : k ∈ keys) {m : String × Json}
    (hm : m ∈ ms) (hs : k.Spells m.1) : k.find? ms = some m := by
  cases hfind : k.find? ms with
  | none => exact absurd hs (Key.find?_eq_none_iff.1 hfind m hm)
  | some m' =>
    obtain ⟨hm', hs'⟩ := Key.mem_of_find? hfind
    rw [h.eq_of_spells hk hm hm' hs hs']

theorem OneEach.isField_iff (h : OneEach keys ms) {m : String × Json} (hm : m ∈ ms) :
    isField keys ms m.1 = true ↔ ∃ k ∈ keys, k.Spells m.1 := by
  simp only [isField, List.any_eq_true, Option.any_eq_true, beq_iff_eq]
  refine exists_congr fun k => and_congr_right fun hk => ?_
  constructor
  · rintro ⟨m', hfind, hname⟩
    exact hname ▸ (Key.mem_of_find? hfind).2
  · intro hs
    exact ⟨m, h.find?_of_mem hk hm hs, rfl⟩

/-- The members left over are those whose names spell no key. -/
theorem OneEach.strangers_eq (h : OneEach keys ms) :
    strangers keys ms =
      (ms.filter fun m => ¬ ∃ k ∈ keys, k.Spells m.1).map fun m => ⟨[.key m.1], .unknownKey⟩ := by
  unfold strangers
  congr 1
  refine List.filter_congr fun m hm => ?_
  rw [Bool.eq_iff_iff, Bool.not_eq_true', decide_eq_true_iff, ← h.isField_iff hm,
    Bool.not_eq_true]

end Record

/-! ## The keys of requests -/

open Record

theorem DateRange.apart_keys : Apart [startKey, finishKey] := by decide

theorem SortKey.apart_keys : Apart [slugKey, directionKey] := by decide

theorem Filter.apart_keys : Apart keys := by decide

theorem Plan.apart_keys : Apart keys := by decide

theorem Request.apart_keys : Apart keys := by decide

end MetricQuery
