import Mathlib.Data.List.Forall2

/-!
# Steps that may fail

Laws of steps that give a result or fail, one after another and one for each member of a list, and
of lists that are related member by member.
-/

namespace MetricQuery

/-! ## Steps -/

section Steps

variable {ε α β : Type}

theorem ok_bind (a : α) (f : α → Except ε β) : Except.ok a >>= f = f a := rfl

theorem error_bind (e : ε) (f : α → Except ε β) : Except.error e >>= f = .error e := rfl

theorem bind_eq_ok {x : Except ε α} {f : α → Except ε β} {b : β} :
    x >>= f = .ok b ↔ ∃ a, x = .ok a ∧ f a = .ok b := by
  cases x <;> simp [bind, Except.bind]

theorem map_eq_ok {x : Except ε α} {f : α → β} {b : β} :
    x.map f = .ok b ↔ ∃ a, x = .ok a ∧ f a = b := by
  cases x <;> simp [Except.map]

theorem exists_of_isOk {x : Except ε α} (h : x.isOk = true) : ∃ a, x = .ok a := by
  cases x with
  | error e => simp [Except.isOk, Except.toBool] at h
  | ok a => exact ⟨a, rfl⟩

theorem exists_of_map_toOption {x : Except ε α} {f : α → β} {b : β}
    (h : x.toOption.map f = some b) : ∃ a, x = .ok a ∧ f a = b := by
  cases x with
  | error e => simp [Except.toOption] at h
  | ok a => exact ⟨a, rfl, Option.some.inj h⟩

theorem mapM_eq_ok {f : α → Except ε β} :
    ∀ {l : List α} {l' : List β}, l.mapM f = .ok l' ↔ l.Forall₂ (fun a b => f a = .ok b) l'
  | [], l' => by simp [pure, Except.pure, eq_comm]
  | a :: l, l' => by
    rw [List.mapM_cons, bind_eq_ok, List.forall₂_cons_left_iff]
    constructor
    · rintro ⟨b, hb, hrest⟩
      obtain ⟨bs, hbs, hl'⟩ := bind_eq_ok.1 hrest
      exact ⟨b, bs, hb, mapM_eq_ok.1 hbs, by simpa [pure, Except.pure, eq_comm] using hl'⟩
    · rintro ⟨b, bs, hb, hbs, rfl⟩
      exact ⟨b, hb, bind_eq_ok.2 ⟨bs, mapM_eq_ok.2 hbs, rfl⟩⟩

theorem mapM_eq_error {f : α → Except ε β} {before after : List α} {a : α} {e : ε}
    (hbefore : ∀ b ∈ before, ∃ c, f b = .ok c) (ha : f a = .error e) :
    (before ++ a :: after).mapM f = .error e := by
  induction before with
  | nil =>
    rw [List.nil_append, List.mapM_cons, ha]
    rfl
  | cons b before ih =>
    obtain ⟨⟨c, hc⟩, hrest⟩ := List.forall_mem_cons.1 hbefore
    rw [List.cons_append, List.mapM_cons, hc, ih hrest]
    rfl

/-- A step that fails in one way only, taken for each member of a list. -/
theorem mapM_cases {f : α → Except ε β} {P : α → Prop} {e : ε}
    (h : ∀ a, (¬ P a ∧ ∃ b, f a = .ok b) ∨ P a ∧ f a = .error e) (l : List α) :
    ((∀ a ∈ l, ¬ P a) ∧ ∃ l', l.mapM f = .ok l') ∨ (∃ a ∈ l, P a) ∧ l.mapM f = .error e := by
  induction l with
  | nil => exact .inl ⟨by simp, [], rfl⟩
  | cons a l ih =>
    rw [List.forall_mem_cons, List.exists_mem_cons_iff, List.mapM_cons]
    obtain ⟨ha, b, hb⟩ | ⟨ha, herror⟩ := h a
    · rw [hb]
      obtain ⟨hl, l', hl'⟩ | ⟨hl, herror⟩ := ih
      · exact .inl ⟨⟨ha, hl⟩, b :: l', by rw [hl']; rfl⟩
      · exact .inr ⟨.inr hl, by rw [herror]; rfl⟩
    · exact .inr ⟨.inl ha, by rw [herror]; rfl⟩

end Steps

/-! ## Members side by side -/

section Members

variable {α β : Type}

/-- Results that each know what they were made from. -/
theorem map_of_forall₂ {l : List α} {l' : List β} {g : β → α} {P : β → Prop}
    (h : l.Forall₂ (fun a b => g b = a ∧ P b) l') :
    l'.map g = l ∧ ∀ b ∈ l', P b := by
  induction h with
  | nil => simp
  | cons hab _ ih => exact ⟨by simp [hab.1, ih.1], List.forall_mem_cons.2 ⟨hab.2, ih.2⟩⟩

theorem map_eq_map_of_forall₂ {γ : Type} {R : α → β → Prop} {f : α → γ} {g : β → γ}
    (hR : ∀ a b, R a b → f a = g b) {l : List α} {l' : List β} (h : l.Forall₂ R l') :
    l.map f = l'.map g := by
  induction h with
  | nil => rfl
  | cons hab _ ih => rw [List.map_cons, List.map_cons, hR _ _ hab, ih]

theorem exists_iff_of_forall₂ {R : α → β → Prop} {P : α → Prop} {Q : β → Prop}
    (hR : ∀ a b, R a b → (P a ↔ Q b)) {l : List α} {l' : List β} (h : l.Forall₂ R l') :
    (∃ a ∈ l, P a) ↔ ∃ b ∈ l', Q b := by
  induction h with
  | nil => simp
  | cons hab _ ih => rw [List.exists_mem_cons_iff, List.exists_mem_cons_iff, hR _ _ hab, ih]

theorem exists_left_of_forall₂ {R : α → β → Prop} {l : List α} {l' : List β} (h : l.Forall₂ R l')
    {b : β} (hb : b ∈ l') : ∃ a ∈ l, R a b := by
  induction h with
  | nil => simp at hb
  | cons hab _ ih =>
    rcases List.mem_cons.1 hb with rfl | hb
    · exact ⟨_, List.mem_cons_self, hab⟩
    · obtain ⟨a, ha, hab⟩ := ih hb
      exact ⟨a, List.mem_cons_of_mem _ ha, hab⟩

theorem forall₂_comp {γ : Type} {R : α → β → Prop} {S : β → γ → Prop} {l : List α} {m : List β}
    {n : List γ} (hR : l.Forall₂ R m) (hS : m.Forall₂ S n) :
    l.Forall₂ (fun a c => ∃ b, R a b ∧ S b c) n := by
  induction hR generalizing n with
  | nil =>
    cases hS
    exact .nil
  | cons hab _ ih =>
    cases hS with
    | cons hbc hrest => exact .cons ⟨_, hab, hbc⟩ (ih hrest)

/-- Lists put together member by member. -/
theorem forall₂_zipWith {γ : Type} {R : α → β → Prop} {f : α → β → γ} {l : List α} {l' : List β}
    (h : l.Forall₂ R l') : l.Forall₂ (fun a c => ∃ b, R a b ∧ c = f a b) (l.zipWith f l') := by
  induction h with
  | nil => exact .nil
  | cons hab _ ih => exact .cons ⟨_, hab, rfl⟩ ih

end Members

end MetricQuery
