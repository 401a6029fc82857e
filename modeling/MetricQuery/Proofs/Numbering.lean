import MetricQuery.Proofs.HoleNames
import Mathlib.Data.List.Chain

/-!
# Holes filled in order

**Theorem (`text_eq_numbered`).** If the texts of a statement hold no `%(`, the statement is written
with `$1` in its first hole, `$2` in the next, and so on, and all else as it is.

`numbered` writes pieces that way at once. The induction is over the pieces: the names of the holes
passed by are the first in the list of names, and names are distinct, so the place of the next
hole's name in the list is the number of holes passed by.

Whether two texts put side by side make up a `%(` depends on one character of each. `skeleton` is
the text of pieces with a `$` for every hole, so that such conditions are chains on one list.
-/

namespace MetricQuery.Sql

/-- The placeholder of a parameter, with the parameters before it counted. -/
def placeholder (before : Nat) : List Char := '$' :: (toString (before + 1)).toList

theorem isDigit_of_mem_number {n : Nat} {c : Char} (h : c ∈ (toString n).toList) :
    c.isDigit = true :=
  Nat.isDigit_of_mem_toDigits (b := 10) (by decide) (by decide) (by simpa using h)

/-- The two characters do not begin a hole. -/
def OpensNoHole (a b : Char) : Prop := ¬ (a = '%' ∧ b = '(')

instance : DecidableRel OpensNoHole := fun _ _ => inferInstanceAs (Decidable (¬ _))

/-- A text without `%(`. -/
abbrev HoleFree (cs : List Char) : Prop := cs.IsChain OpensNoHole

namespace Piece

/-- Pieces with numbers in their holes, after `before` other holes. -/
def numbered (before : Nat) : List Piece → List Char
  | [] => []
  | text s :: rest => s.toList ++ numbered before rest
  | hole _ _ :: rest => placeholder before ++ numbered (before + 1) rest

/-- The text of pieces, with `$` in the place of each hole. -/
def skeleton : List Piece → List Char
  | [] => []
  | text s :: rest => s.toList ++ skeleton rest
  | hole _ _ :: rest => '$' :: skeleton rest

/-- The stems of the holes can stand in names: they hold no gaps. -/
def Nameable (ps : List Piece) : Prop :=
  ∀ stem v, hole stem v ∈ ps → ∀ c, isGap c = true → c ∉ stem

/-! ## Pieces side by side -/

theorem values_append (ps qs : List Piece) : values (ps ++ qs) = values ps ++ values qs := by
  induction ps with
  | nil => rfl
  | cons p ps ih => cases p <;> simp [values, ih]

theorem skeleton_append (ps qs : List Piece) :
    skeleton (ps ++ qs) = skeleton ps ++ skeleton qs := by
  induction ps with
  | nil => rfl
  | cons p ps ih => cases p <;> simp [skeleton, ih]

theorem numbered_append (before : Nat) (ps qs : List Piece) :
    numbered before (ps ++ qs) =
      numbered before ps ++ numbered (before + (values ps).length) qs := by
  induction ps generalizing before with
  | nil => rfl
  | cons p ps ih =>
    cases p with
    | text s => simp [numbered, values, ih]
    | hole stem v =>
      simp only [List.cons_append, numbered, values, List.length_cons, ih, List.append_assoc]
      rw [Nat.add_right_comm, Nat.add_assoc]

theorem values_join (separator : String) (pss : List (List Piece)) :
    values (join separator pss) = pss.flatMap values := by
  fun_induction join separator pss with
  | case1 => rfl
  | case2 ps => simp
  | case3 ps rest _ ih => rw [values_append, values, ih, List.flatMap_cons]

theorem skeleton_join (separator : String) (pss : List (List Piece)) :
    skeleton (join separator pss) = separator.toList.intercalate (pss.map skeleton) := by
  fun_induction join separator pss with
  | case1 => rfl
  | case2 ps => simp
  | case3 ps rest hne ih =>
    cases rest with
    | nil => exact absurd rfl hne
    | cons qs rest => simp [skeleton_append, skeleton, ih]

/-! ## Parts -/

end Piece

/-- A part of a written statement, with the values of its placeholders. -/
structure Part where
  text : List Char
  values : List Json

namespace Piece

/-- Sequences of pieces as parts, each numbered after those before it. -/
def parts (before : Nat) : List (List Piece) → List Part
  | [] => []
  | ps :: rest => ⟨numbered before ps, values ps⟩ :: parts (before + (values ps).length) rest

theorem values_parts (before : Nat) (pss : List (List Piece)) :
    (parts before pss).map Part.values = pss.map values := by
  induction pss generalizing before with
  | nil => rfl
  | cons ps rest ih => simp [parts, ih]

theorem parts_append (before : Nat) (pss qss : List (List Piece)) :
    parts before (pss ++ qss) =
      parts before pss ++ parts (before + (pss.flatMap values).length) qss := by
  induction pss generalizing before with
  | nil => rfl
  | cons ps rest ih => simp [parts, ih, Nat.add_assoc]

theorem numbered_join (separator : String) (before : Nat) (pss : List (List Piece)) :
    numbered before (join separator pss) =
      separator.toList.intercalate ((parts before pss).map Part.text) := by
  fun_induction join separator pss generalizing before with
  | case1 => rfl
  | case2 ps => simp [parts]
  | case3 ps rest hne ih =>
    cases rest with
    | nil => exact absurd rfl hne
    | cons qs rest => simp [numbered_append, numbered, parts, ih]

/-! ## First characters -/

theorem head?_numbered (before : Nat) (ps : List Piece) :
    (numbered before ps).head? = (skeleton ps).head? := by
  induction ps with
  | nil => rfl
  | cons p ps ih => cases p <;> simp [numbered, skeleton, placeholder, List.head?_append, ih]

/-- A template begins with an opening bracket only if a text does. -/
theorem head?_template {g : Naming} {ps : List Piece} (h : (template g ps).head? = some '(') :
    (skeleton ps).head? = some '(' := by
  induction ps with
  | nil => exact h
  | cons p ps ih =>
    cases p with
    | text s =>
      cases hs : s.toList with
      | nil => simpa [template, skeleton, hs] using ih (by simpa [template, hs] using h)
      | cons c cs => simpa [template, skeleton, hs] using h
    | hole stem v => simp [template, Sql.hole] at h

end Piece

/-! ## Filling -/

theorem holeName?_eq_none {c : Char} {cs : List Char} (h : ¬ (c = '%' ∧ cs.head? = some '(')) :
    holeName? (c :: cs) = none := by
  unfold holeName?
  split
  · next heq =>
    obtain ⟨rfl, rfl⟩ := List.cons.inj heq
    exact absurd ⟨rfl, rfl⟩ h
  · rfl

theorem holeName?_hole {name : List Char} (hne : name ≠ []) (hname : ')' ∉ name)
    (rest : List Char) : holeName? (hole name ++ rest) = some name := by
  have hkeep : ∀ c ∈ name, (c != ')') = true := by
    intro c hc
    simpa using fun h : c = ')' => hname (h ▸ hc)
  have hdrop : (name ++ ')' :: 's' :: rest).dropWhile (· != ')') = ')' :: 's' :: rest := by
    rw [List.dropWhile_append_of_pos hkeep]; rfl
  have htake : (name ++ ')' :: 's' :: rest).takeWhile (· != ')') = name := by
    rw [List.takeWhile_append_of_pos hkeep]; simp
  simp [hole, holeName?, hdrop, htake, hne]

theorem fill_skip (names : List (List Char)) (skipped rest : List Char) :
    fill names skipped.length (skipped ++ rest) = fill names 0 rest := by
  induction skipped with
  | nil => rfl
  | cons c cs ih => exact ih

theorem fill_hole (names : List (List Char)) {name : List Char} (hne : name ≠ [])
    (hname : ')' ∉ name) (rest : List Char) :
    fill names 0 (hole name ++ rest) = filled names name ++ fill names 0 rest := by
  have hread := holeName?_hole hne hname rest
  have hskip := fill_skip names (name ++ [')', 's']) rest
  simp only [hole, List.cons_append, List.append_assoc] at hread ⊢
  simp only [fill, hread]
  simpa using hskip

/-- Text that holds no `%(`, also at its border to the text after it, stays as it is. -/
theorem fill_text (names : List (List Char)) {cs rest : List Char}
    (h : HoleFree (cs ++ rest.head?.toList)) :
    fill names 0 (cs ++ rest) = cs ++ fill names 0 rest := by
  induction cs with
  | nil => rfl
  | cons c cs ih =>
    have hnext : ¬ (c = '%' ∧ (cs ++ rest).head? = some '(') := by
      rintro ⟨hc, hhead⟩
      cases cs with
      | nil =>
        rw [List.nil_append] at hhead
        simp [HoleFree, hhead, hc, OpensNoHole] at h
      | cons d cs =>
        obtain rfl : d = '(' := by simpa using hhead
        simp [HoleFree, hc, OpensNoHole] at h
    have htail : HoleFree (cs ++ rest.head?.toList) := h.tail
    simp only [List.cons_append, fill, holeName?_eq_none hnext, ih htail]

/-- The place of a name among distinct names gives its number. -/
theorem filled_append_cons {before after : List (List Char)} {name : List Char}
    (h : (before ++ name :: after).Nodup) :
    filled (before ++ name :: after) name = placeholder before.length := by
  have hfirst : (before ++ name :: after).idxOf? name = some before.length := by
    rw [List.idxOf?_eq_some_iff]
    refine ⟨by simp, by simp, fun j hj heq => ?_⟩
    rw [List.getElem_append_left hj] at heq
    have hmem : name ∈ before := heq ▸ List.getElem_mem hj
    exact (List.nodup_append.1 h).2.2 name hmem name List.mem_cons_self rfl
  simp [filled, hfirst, placeholder]

theorem ne_underscore_of_isGap {c : Char} (hc : isGap c = true) : c ≠ '_' := by
  rintro rfl
  simp [isGap] at hc

theorem gap_notMem_toDigits {c : Char} (hc : isGap c = true) {b : Nat} (hb : 1 < b) (hb' : b ≤ 16)
    (n : Nat) : c ∉ Nat.toDigits b n := by
  have hdigits : ∀ m < 16, isGap (Nat.digitChar m) = false := by decide
  refine notMem_toDigits ?_ hb hb' n
  rintro m hm rfl
  simp [hdigits m hm] at hc

/-- A name holds no gaps if its stem holds none. -/
theorem gap_notMem_name {g : Naming} {stem : List Char} {c : Char} (hc : isGap c = true)
    (h : c ∉ stem) : c ∉ g.name stem := by
  have hbar := ne_underscore_of_isGap hc
  have hfull : c ∉ g.fullName stem := by
    simp [Naming.fullName_eq, h, hbar, gap_notMem_toDigits hc (b := 10) (by decide) (by decide)]
  by_cases hlen : (g.fullName stem).length ≤ longestName
  · rwa [Naming.name_eq_fullName hlen]
  · rw [Naming.name_eq_cut hlen]
    have htake : c ∉ (g.fullName stem).take longestName := fun hm => hfull (List.mem_of_mem_take hm)
    simp [htake, hbar, gap_notMem_toDigits hc (b := 16) (by decide) (by decide)]

theorem name_ne_nil (g : Naming) (stem : List Char) : g.name stem ≠ [] := by
  by_cases hlen : (g.fullName stem).length ≤ longestName
  · simp [Naming.name_eq_fullName hlen, Naming.fullName_eq]
  · simp [Naming.name_eq_cut hlen]

open Piece in
/-- A template is filled with the number of each hole, if the names of the holes passed by are the
first in the list. -/
theorem fill_template {passed : List (List Char)} {g : Naming} {ps : List Piece}
    (hnames : (passed ++ names g ps).Nodup) (hfree : HoleFree (skeleton ps))
    (hstems : Nameable ps) :
    fill (passed ++ names g ps) 0 (template g ps) = numbered passed.length ps := by
  induction ps generalizing passed g with
  | nil => rfl
  | cons p ps ih =>
    have hstems' : Nameable ps := fun stem v hm => hstems stem v (List.mem_cons_of_mem p hm)
    cases p with
    | text s =>
      obtain ⟨-, hfree', hborder⟩ := List.isChain_append.1 hfree
      have htext : HoleFree (s.toList ++ (template g ps).head?.toList) := by
        refine List.isChain_append.2 ⟨(List.isChain_append.1 hfree).1, ?_, ?_⟩
        · cases (template g ps).head? <;> simp
        · rintro x hx y hy ⟨rfl, rfl⟩
          have hhead : (template g ps).head? = some '(' := by simpa using hy
          exact hborder '%' hx '(' (head?_template hhead) ⟨rfl, rfl⟩
      simp only [template, names, numbered]
      rw [fill_text _ htext, ih hnames hfree' hstems']
    | hole stem v =>
      have hstem : ')' ∉ g.name stem :=
        gap_notMem_name (by decide) (hstems stem v List.mem_cons_self ')' (by decide))
      -- The name of this hole joins those passed by, so their number is that of the next hole.
      have hnames' : (passed ++ [g.name stem] ++ names (g.add stem) ps).Nodup := by
        simpa [names] using hnames
      have hrest : fill (passed ++ g.name stem :: names (g.add stem) ps) 0
          (template (g.add stem) ps) = numbered (passed.length + 1) ps := by
        simpa using ih hnames' hfree.tail hstems'
      simp only [template, names, numbered]
      rw [fill_hole _ (name_ne_nil g stem) hstem, filled_append_cons hnames, hrest]

/-! ## Statements -/

theorem gap_notMem_joinGaps {c : Char} (hc : isGap c = true) (cs : List Char) :
    c ∉ joinGaps cs := by
  fun_induction joinGaps cs with
  | case1 => simp
  | case2 d cs _ _ ih => exact ih
  | case3 d cs _ _ ih => simp [ih, ne_underscore_of_isGap hc]
  | case4 d cs hd ih =>
    have hne : c ≠ d := fun h => hd (h ▸ hc)
    simp [hne, ih]

theorem gap_notMem_stemOf {c : Char} (hc : isGap c = true) (t : String) : c ∉ stemOf t := by
  have htrim : ∀ (kind : Char → Bool) (cs : List Char), ∀ c ∈ Text.trim kind cs, c ∈ cs := by
    intro kind cs c hc
    have h₁ := (List.dropWhile_sublist kind).subset (List.mem_reverse.1 hc)
    exact (List.dropWhile_sublist kind).subset (List.mem_reverse.1 h₁)
  intro hmem
  obtain ⟨d, hd, heq⟩ := List.mem_map.1 hmem
  have hsame : d = c := by
    unfold nameChar at heq
    split_ifs at heq with h₁ h₂
    · subst heq
      simp [isGap] at hc
    · exact absurd heq.symm (ne_underscore_of_isGap hc)
    · exact heq
  exact gap_notMem_joinGaps hc t.toList (hsame ▸ htrim _ _ d hd)

theorem gap_notMem_stem {c : Char} (hc : isGap c = true) (s : Subject) : c ∉ s.stem := by
  cases s <;> exact gap_notMem_stemOf hc _

theorem gap_notMem_plainStem {c : Char} (hc : isGap c = true) : c ∉ plainStem := by
  have hall : ∀ d ∈ plainStem, isGap d = false := by simp [plainStem, isGap]
  intro hmem
  simp [hall c hmem] at hc

namespace Piece

theorem mem_join {separator : String} {pss : List (List Piece)} {p : Piece}
    (h : p ∈ join separator pss) : p = text separator ∨ ∃ ps ∈ pss, p ∈ ps := by
  fun_induction join separator pss with
  | case1 => simp at h
  | case2 ps => exact .inr ⟨ps, List.mem_singleton_self ps, h⟩
  | case3 ps rest _ ih =>
    rcases List.mem_append.1 h with hps | hrest
    · exact .inr ⟨ps, List.mem_cons_self, hps⟩
    · rcases List.mem_cons.1 hrest with rfl | hrest
      · exact .inl rfl
      · exact (ih hrest).imp_right fun ⟨qs, hqs, hmem⟩ => ⟨qs, List.mem_cons_of_mem ps hqs, hmem⟩

theorem hole_mem_join {separator : String} {pss : List (List Piece)} {stem : List Char} {v : Json}
    (h : hole stem v ∈ join separator pss) : ∃ ps ∈ pss, hole stem v ∈ ps :=
  (mem_join h).resolve_left (by simp)

theorem nameable_predicate (p : Predicate) : Nameable p.pieces := by
  intro stem v hmem c hc
  cases p with
  | oneOf s choices =>
    have hjoin : hole stem v ∈ join ", " (choices.map fun v => [hole plainStem v]) := by
      simpa [Predicate.pieces] using hmem
    obtain ⟨ps, hps, hmem⟩ := hole_mem_join hjoin
    obtain ⟨w, -, rfl⟩ := List.mem_map.1 hps
    obtain ⟨rfl, -⟩ := by simpa using hmem
    exact gap_notMem_plainStem hc
  | between s low high =>
    have hstem : stem = s.stem := by
      rcases (by simpa [Predicate.pieces] using hmem : _ ∨ _) with h | h <;> exact h.1
    exact hstem ▸ gap_notMem_stem hc s
  | compare s _ _ | like s _ =>
    obtain ⟨rfl, -⟩ := by simpa [Predicate.pieces] using hmem
    exact gap_notMem_stem hc s
  | isNull _ | isTruth _ _ | fragment _ => simp [Predicate.pieces] at hmem

end Piece

theorem Statement.nameable (s : Statement) : Piece.Nameable s.pieces := by
  intro stem v hmem c hc
  have hclause : ∀ keyword texts, Piece.hole stem v ∉ clause keyword texts := by
    intro keyword texts
    unfold clause
    split <;> simp
  simp only [pieces, List.cons_append, List.mem_cons, List.mem_append, reduceCtorEq, false_or,
    hclause, or_false, List.not_mem_nil, Piece.hole.injEq] at hmem
  rcases hmem with hcondition | ⟨rfl, -⟩
  · obtain ⟨ps, hps, hmem⟩ := Piece.hole_mem_join hcondition
    obtain ⟨p, -, rfl⟩ := List.mem_map.1 hps
    exact Piece.nameable_predicate p stem v hmem c hc
  · exact gap_notMem_plainStem hc

theorem Statement.text_eq_numbered {s : Statement} (hfree : HoleFree (Piece.skeleton s.pieces)) :
    s.text.toList = Piece.numbered 0 s.pieces := by
  have hnames : ([] ++ Piece.names {} s.pieces).Nodup := Piece.nodup_names {} s.pieces
  simpa [Statement.text] using fill_template hnames hfree s.nameable

end MetricQuery.Sql
