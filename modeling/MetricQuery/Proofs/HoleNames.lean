import MetricQuery.Sql.Rendering
import Mathlib.Data.List.Basic

/-!
# The names of holes

**Theorem (`nodup_names`).** No two holes of a written statement have the same name.

A name is a stem or a cut name, then `_`, then a number in digits that hold no `_`. So the last `_`
of a name tells the two apart, and two equal names agree in both. The counts of a `Naming` only grow
(`Naming.Upto`): of two holes with one stem the later has the larger number, and of two cut names
the later was cut later. A cut name is longer than any that is not cut.
-/

namespace MetricQuery.Sql

/-! ## Digits -/

theorem digitChar_inj {m n : Nat} (hm : m < 16) (hn : n < 16)
    (h : m.digitChar = n.digitChar) : m = n := by
  have hall : ∀ m < 16, ∀ n < 16, Nat.digitChar m = Nat.digitChar n → m = n := by decide
  exact hall m hm n hn h

theorem toDigits_injective {b : Nat} (hb : 1 < b) (hb' : b ≤ 16) :
    Function.Injective (Nat.toDigits b) := by
  intro m
  induction m using Nat.strongRecOn with
  | ind m ih =>
    intro n h
    rw [Nat.toDigits_eq_if hb, Nat.toDigits_eq_if hb (n := n)] at h
    split_ifs at h with hm hn hn
    · exact digitChar_inj (by omega) (by omega) (List.singleton_inj.1 h)
    · have hlen := congrArg List.length h
      have hpos : 0 < (Nat.toDigits b (n / b)).length := Nat.length_toDigits_pos
      simp at hlen
    · have hlen := congrArg List.length h
      simp at hlen
    · obtain ⟨hdiv, hmod⟩ := List.append_inj' h rfl
      have hquot : m / b = n / b := ih (m / b) (Nat.div_lt_self (by omega) hb) hdiv
      have hrem_lt : ∀ k, k % b < 16 := fun k =>
        Nat.lt_of_lt_of_le (Nat.mod_lt k (by omega)) hb'
      have hrem : m % b = n % b :=
        digitChar_inj (hrem_lt m) (hrem_lt n) (List.singleton_inj.1 hmod)
      rw [← Nat.div_add_mod m b, ← Nat.div_add_mod n b, hquot, hrem]

/-- A character that is no digit is not among digits. -/
theorem notMem_toDigits {c : Char} (hc : ∀ m < 16, c ≠ m.digitChar) {b : Nat} (hb : 1 < b)
    (hb' : b ≤ 16) (n : Nat) : c ∉ Nat.toDigits b n := by
  induction n using Nat.strongRecOn with
  | ind n ih =>
    rw [Nat.toDigits_eq_if hb]
    split_ifs with hn
    · simpa using hc n (by omega)
    · have hlt : n / b < n := Nat.div_lt_self (by omega) hb
      have hlast : n % b < 16 := Nat.lt_of_lt_of_le (Nat.mod_lt n (by omega)) hb'
      simpa [hc _ hlast] using ih (n / b) hlt

/-- What stands before the last `_`, and what stands after it. -/
theorem append_underscore_inj {a b d e : List Char} (hd : '_' ∉ d) (he : '_' ∉ e)
    (h : a ++ '_' :: d = b ++ '_' :: e) : a = b ∧ d = e := by
  rcases List.append_eq_append_iff.1 h with ⟨c, rfl, hc⟩ | ⟨c, rfl, hc⟩
  · cases c with
    | nil => simpa using hc
    | cons x c =>
      obtain ⟨-, rfl⟩ := List.cons.inj hc
      simp at hd
  · cases c with
    | nil => simpa [eq_comm] using hc
    | cons x c =>
      obtain ⟨-, rfl⟩ := List.cons.inj hc
      simp at he

/-! ## Names -/

namespace Naming

theorem fullName_eq (g : Naming) (stem : List Char) :
    g.fullName stem = stem ++ '_' :: Nat.toDigits 10 (g.stems.count stem + 1) := by
  simp [fullName]

/-- Every name of `g` was given by the time of `g'`. -/
structure Upto (g g' : Naming) : Prop where
  count : ∀ stem, g.stems.count stem ≤ g'.stems.count stem
  cuts : g.cuts ≤ g'.cuts

theorem Upto.refl (g : Naming) : g.Upto g := ⟨fun _ => Nat.le_refl _, Nat.le_refl _⟩

theorem Upto.trans {g g' g'' : Naming} (h : g.Upto g') (h' : g'.Upto g'') : g.Upto g'' :=
  ⟨fun stem => Nat.le_trans (h.count stem) (h'.count stem), Nat.le_trans h.cuts h'.cuts⟩

theorem upto_add (g : Naming) (stem : List Char) : g.Upto (g.add stem) where
  count := fun s => List.count_le_count_cons
  cuts := by unfold add; dsimp only; split_ifs <;> omega

theorem name_eq_fullName {g : Naming} {stem : List Char}
    (h : (g.fullName stem).length ≤ longestName) : g.name stem = g.fullName stem := by
  simp [name, h]

theorem name_eq_cut {g : Naming} {stem : List Char}
    (h : ¬ (g.fullName stem).length ≤ longestName) :
    g.name stem = (g.fullName stem).take longestName ++ '_' :: Nat.toDigits 16 (g.cuts + 1) := by
  simp [name, h]

/-- A name ends in digits. -/
theorem exists_name_eq (g : Naming) (stem : List Char) : ∃ front b n, 1 < b ∧ b ≤ 16 ∧
    g.name stem = front ++ '_' :: Nat.toDigits b n := by
  by_cases h : (g.fullName stem).length ≤ longestName
  · exact ⟨stem, 10, _, by decide, by decide, by rw [name_eq_fullName h, fullName_eq]⟩
  · exact ⟨_, 16, _, by decide, by decide, name_eq_cut h⟩

theorem length_name_of_cut {g : Naming} {stem : List Char}
    (h : ¬ (g.fullName stem).length ≤ longestName) : longestName < (g.name stem).length := by
  rw [name_eq_cut h, List.length_append, List.length_take, List.length_cons]
  omega

/-- A name is not given again. -/
theorem name_ne {g g' : Naming} {stem : List Char} (h : (g.add stem).Upto g')
    (stem' : List Char) : g.name stem ≠ g'.name stem' := by
  intro heq
  -- Whole names differ in their counts, cut ones in the number of cuts; a whole one is too short to
  -- be a cut one.
  by_cases hg : (g.fullName stem).length ≤ longestName <;>
    by_cases hg' : (g'.fullName stem').length ≤ longestName
  · rw [name_eq_fullName hg, name_eq_fullName hg', fullName_eq, fullName_eq] at heq
    obtain ⟨rfl, hdigits⟩ := append_underscore_inj Nat.underscore_not_in_toDigits
      Nat.underscore_not_in_toDigits heq
    have hcount := toDigits_injective (by decide) (by decide) hdigits
    have hlater := h.count stem
    simp only [add, List.count_cons_self] at hlater
    omega
  · have hlong := length_name_of_cut hg'
    rw [← heq, name_eq_fullName hg] at hlong
    omega
  · have hlong := length_name_of_cut hg
    rw [heq, name_eq_fullName hg'] at hlong
    omega
  · rw [name_eq_cut hg, name_eq_cut hg'] at heq
    have hdigits := (append_underscore_inj (notMem_toDigits (by decide) (by decide) (by decide) _)
      (notMem_toDigits (by decide) (by decide) (by decide) _) heq).2
    have hcuts := toDigits_injective (by decide) (by decide) hdigits
    have hlater := h.cuts
    simp only [add, hg, if_false] at hlater
    omega

end Naming

namespace Piece

/-- A name given later is none of the names given up to `g`. -/
theorem name_notMem_names {g g' : Naming} {stem : List Char} (h : (g.add stem).Upto g') :
    ∀ ps : List Piece, g.name stem ∉ names g' ps
  | [] => by simp [names]
  | text _ :: rest => by simpa [names] using name_notMem_names h rest
  | hole stem' _ :: rest => by
    simp only [names, List.mem_cons, not_or]
    exact ⟨Naming.name_ne h stem', name_notMem_names (h.trans (Naming.upto_add g' stem')) rest⟩

theorem nodup_names : ∀ (g : Naming) (ps : List Piece), (names g ps).Nodup
  | _, [] => List.nodup_nil
  | g, text _ :: rest => nodup_names g rest
  | g, hole stem _ :: rest =>
    List.nodup_cons.2 ⟨name_notMem_names (Naming.Upto.refl _) rest, nodup_names (g.add stem) rest⟩

end Piece

end MetricQuery.Sql
