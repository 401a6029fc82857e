import MetricQuery.Proofs.Sources

/-!
# The layout of a statement

A text that holds `%(` may take in the hole that comes after it. That hole is then not numbered:
what stands between the brackets is the name of no value, so all of it stays as it is.

**Theorem (`Statement.exists_layout`).** A statement is written clause by clause, all its texts as
they are, and for every value its placeholder or its hole. This holds of texts with `%(` too, unless
one spells out a hole of this very statement, such as `%(tenant_id_1)s`.

Filling a template is a relation (`Filling`): characters are kept or holes are numbered. Names hold
no `%`, so a hole begins where a text spells one out or where the template has one, and nowhere
else.
-/

namespace MetricQuery.Sql

/-! ## Filling -/

/-- The second text is the first with some of the holes of these names numbered. -/
inductive Filling (names : List (List Char)) : List Char → List Char → Prop
  | nil : Filling names [] []
  | keep (c : Char) {cs out : List Char} (h : Filling names cs out) :
      Filling names (c :: cs) (c :: out)
  | number {name cs out : List Char} (hname : name ∈ names) (h : Filling names cs out) :
      Filling names (hole name ++ cs) (filled names name ++ out)

theorem exists_rest_of_holeName? {cs name : List Char} (h : holeName? cs = some name) :
    ∃ rest, cs = hole name ++ rest := by
  unfold holeName? at h
  split at h
  · next cs =>
    split at h
    · next c rest hdrop =>
      obtain rfl : cs.takeWhile (· != ')') = name :=
        Option.some.inj (Option.eq_some_of_filter_eq_some h)
      have hc : (c != ')') = false := by
        have hhead := List.head?_dropWhile_not (· != ')') cs
        simpa [hdrop] using hhead
      obtain rfl : c = ')' := by simpa using hc
      refine ⟨rest, ?_⟩
      calc '%' :: '(' :: cs
        _ = '%' :: '(' :: (cs.takeWhile (· != ')') ++ cs.dropWhile (· != ')')) := by
          rw [List.takeWhile_append_dropWhile]
        _ = hole (cs.takeWhile (· != ')')) ++ rest := by simp [hdrop, hole]
    · simp at h
  · simp at h

namespace Filling

variable {names : List (List Char)}

theorem keep_append (kept : List Char) {cs out : List Char} (h : Filling names cs out) :
    Filling names (kept ++ cs) (kept ++ out) := by
  induction kept with
  | nil => exact h
  | cons c kept ih => exact ih.keep c

/-- Filling a template keeps characters and numbers holes, and does nothing else. -/
theorem of_fill (skip : Nat) (cs : List Char) :
    Filling names (cs.drop skip) (fill names skip cs) := by
  induction cs generalizing skip with
  | nil => simpa [fill] using Filling.nil
  | cons c cs ih =>
    cases skip with
    | succ skip => exact ih skip
    | zero =>
      rw [List.drop_zero, fill]
      cases hread : holeName? (c :: cs) with
      | none => exact (ih 0).keep c
      | some name =>
        obtain ⟨rest, hcs⟩ := exists_rest_of_holeName? hread
        have hrest : Filling names rest (fill names (name.length + 3) cs) := by
          have htail : cs = '(' :: name ++ [')', 's'] ++ rest := by
            simpa [hole] using congrArg List.tail hcs
          have hdrop : cs.drop (name.length + 3) = rest := by
            rw [htail, List.drop_left' (by simp)]
          exact hdrop ▸ ih (name.length + 3)
        rw [hcs]
        show Filling names (hole name ++ rest)
          (filled names name ++ fill names (name.length + 3) cs)
        by_cases hname : name ∈ names
        · exact hrest.number hname
        · have hkept : filled names name = hole name := by
            rw [filled, List.idxOf?_eq_none_iff.2 hname]
          rw [hkept]
          exact hrest.keep_append (hole name)

/-- Text in which no hole begins stays as it is. -/
theorem exists_of_append {text cs out : List Char} (h : Filling names (text ++ cs) out)
    (hnone : ∀ t, t <:+ text → t ≠ [] → ∀ n ∈ names, ¬ hole n <+: t ++ cs) :
    ∃ rest, out = text ++ rest ∧ Filling names cs rest := by
  induction text generalizing out with
  | nil => exact ⟨out, rfl, h⟩
  | cons c text ih =>
    generalize htext : c :: text ++ cs = whole at h
    cases h with
    | nil => simp at htext
    | keep d h =>
      obtain ⟨rfl, rfl⟩ := List.cons.inj htext
      obtain ⟨rest, rfl, hrest⟩ := ih h fun t ht =>
        hnone t (ht.trans (List.suffix_cons c text))
      exact ⟨rest, rfl, hrest⟩
    | number hname h =>
      have hnot := hnone (c :: text) (List.suffix_refl _) (List.cons_ne_nil _ _) _ hname
      exact absurd (htext ▸ List.prefix_append _ _) hnot

/-- A name that can stand in a hole. -/
structure IsName (name : List Char) : Prop where
  ne_nil : name ≠ []
  percent : '%' ∉ name
  bracket : ')' ∉ name

theorem eq_of_hole_append {name name' cs cs' : List Char} (h : IsName name) (h' : IsName name')
    (heq : hole name ++ cs = hole name' ++ cs') : name = name' ∧ cs = cs' := by
  have hread := congrArg holeName? heq
  rw [holeName?_hole h.ne_nil h.bracket, holeName?_hole h'.ne_nil h'.bracket] at hread
  obtain rfl := Option.some.inj hread
  exact ⟨rfl, List.append_cancel_left heq⟩

/-- A hole is numbered, or it stays as it is. -/
theorem exists_of_hole (hnames : ∀ n ∈ names, IsName n) {name cs out : List Char}
    (hname : IsName name) (h : Filling names (hole name ++ cs) out) :
    ∃ w rest, (name ∈ names ∧ w = filled names name ∨ w = hole name) ∧ out = w ++ rest ∧
      Filling names cs rest := by
  generalize hwhole : hole name ++ cs = whole at h
  cases h with
  | nil => simp [hole] at hwhole
  | number hmem h =>
    obtain ⟨rfl, rfl⟩ := eq_of_hole_append hname (hnames _ hmem) hwhole
    exact ⟨_, _, .inl ⟨hmem, rfl⟩, rfl, h⟩
  | keep c h =>
    obtain ⟨rfl, rfl⟩ : '%' = c ∧ '(' :: name ++ [')', 's'] ++ cs = _ := by
      simpa [hole] using hwhole
    obtain ⟨rest, rfl, hrest⟩ := h.exists_of_append fun t ht hne n _ hpre => by
      -- No other hole begins inside of a hole, since there is no further `%`.
      obtain ⟨c, t, rfl⟩ := List.exists_cons_of_ne_nil hne
      obtain ⟨rfl, -⟩ : '%' = c ∧ _ := by simpa [hole] using hpre
      have hmem : '%' ∈ '(' :: name ++ [')', 's'] := ht.subset List.mem_cons_self
      simp [hname.percent] at hmem
    exact ⟨hole name, rest, .inr rfl, by simp [hole], hrest⟩

end Filling

/-! ## Layouts -/

theorem exists_placeholder {names : List (List Char)} {name : List Char} (h : name ∈ names) :
    ∃ before, filled names name = placeholder before := by
  cases hidx : names.idxOf? name with
  | none => exact absurd h (List.idxOf?_eq_none_iff.1 hidx)
  | some i => exact ⟨i, by rw [filled, hidx]; rfl⟩

namespace Piece

/-- A way to write pieces: every text as it is, and for every value a placeholder or a hole. -/
inductive Layout : List Piece → List Char → Prop
  | nil : Layout [] []
  | text (s : String) {ps : List Piece} {out : List Char} (h : Layout ps out) :
      Layout (text s :: ps) (s.toList ++ out)
  | numbered (stem : List Char) (v : Json) (before : Nat) {ps : List Piece} {out : List Char}
      (h : Layout ps out) : Layout (hole stem v :: ps) (placeholder before ++ out)
  | kept (stem : List Char) (v : Json) (name : List Char) {ps : List Piece} {out : List Char}
      (h : Layout ps out) : Layout (hole stem v :: ps) (Sql.hole name ++ out)

/-- A template and its skeleton differ at holes only. -/
theorem takeWhile_template_prefix (g : Naming) (ps : List Piece) :
    (template g ps).takeWhile (· != '%') <+: skeleton ps := by
  induction ps generalizing g with
  | nil => exact List.prefix_rfl
  | cons p ps ih =>
    cases p with
    | text s =>
      rw [template, skeleton, List.takeWhile_append]
      split_ifs
      · exact (List.prefix_append_right_inj _).2 (ih g)
      · exact (List.takeWhile_prefix _).trans (List.prefix_append _ _)
    | hole stem v => simp [template, Sql.hole]

/-- A hole that begins in a text is one that the text spells out. -/
theorem not_hole_prefix {n : List Char} (hn : Filling.IsName n) {g : Naming} {ps : List Piece}
    {s : String} (hnone : ¬ Sql.hole n <:+: skeleton (text s :: ps)) {t : List Char}
    (ht : t <:+ s.toList) (hne : t ≠ []) : ¬ Sql.hole n <+: t ++ template g ps := by
  intro hpre
  obtain ⟨c, t, rfl⟩ := List.exists_cons_of_ne_nil hne
  obtain ⟨rfl, hinner⟩ : '%' = c ∧ '(' :: n ++ [')', 's'] <+: t ++ template g ps := by
    simpa [Sql.hole] using hpre
  have hquiet : ∀ d ∈ '(' :: n ++ [')', 's'], (d != '%') = true := by
    intro d hd
    have hd' : d ≠ '%' := by
      rintro rfl
      simp [hn.percent] at hd
    simpa using hd'
  have hskeleton : '(' :: n ++ [')', 's'] <+: t ++ skeleton ps := by
    have hsame := takeWhile_template_prefix g (text (String.ofList t) :: ps)
    simp only [template, skeleton, String.toList_ofList] at hsame
    obtain ⟨rest, hrest⟩ := hinner
    rw [← hrest, List.takeWhile_append_of_pos hquiet] at hsame
    exact (List.prefix_append _ _).trans hsame
  have hsuffix : '%' :: t ++ skeleton ps <:+ skeleton (text s :: ps) :=
    List.suffix_append_self_iff.2 ht
  exact hnone (((List.prefix_cons_inj '%').2 hskeleton).isInfix.trans hsuffix.isInfix)

theorem isName_name {g : Naming} {stem : List Char} (h : ∀ c, isGap c = true → c ∉ stem) :
    Filling.IsName (g.name stem) where
  ne_nil := name_ne_nil g stem
  percent := gap_notMem_name (by decide) (h '%' (by decide))
  bracket := gap_notMem_name (by decide) (h ')' (by decide))

theorem layout_of_filling {names : List (List Char)} (hnames : ∀ n ∈ names, Filling.IsName n)
    {g : Naming} {ps : List Piece} {out : List Char} (hstems : Nameable ps)
    (hnone : ∀ n ∈ names, ¬ Sql.hole n <:+: skeleton ps)
    (h : Filling names (template g ps) out) : Layout ps out := by
  induction ps generalizing g out with
  | nil =>
    cases h
    exact .nil
  | cons p ps ih =>
    have hstems' : Nameable ps := fun stem v hm => hstems stem v (List.mem_cons_of_mem p hm)
    cases p with
    | text s =>
      obtain ⟨rest, rfl, hrest⟩ := h.exists_of_append fun t ht hne n hn =>
        not_hole_prefix (hnames n hn) (hnone n hn) ht hne
      refine (ih hstems' (fun n hn hin => hnone n hn ?_) hrest).text s
      exact hin.trans (List.suffix_append _ _).isInfix
    | hole stem v =>
      have hname := isName_name (g := g) (hstems stem v List.mem_cons_self)
      obtain ⟨w, rest, hw, rfl, hrest⟩ := h.exists_of_hole hnames hname
      have hps := ih hstems' (fun n hn hin => hnone n hn (hin.trans (List.suffix_cons _ _).isInfix))
        hrest
      rcases hw with ⟨hmem, rfl⟩ | rfl
      · obtain ⟨before, hbefore⟩ := exists_placeholder hmem
        exact hbefore ▸ hps.numbered stem v before
      · exact hps.kept stem v (g.name stem)

/-- The name of a hole is made of the stem of one of the holes. -/
theorem exists_of_mem_names {ps : List Piece} {g : Naming} {n : List Char} (hn : n ∈ names g ps) :
    ∃ g' stem v, hole stem v ∈ ps ∧ n = Naming.name g' stem := by
  induction ps generalizing g with
  | nil => simp [names] at hn
  | cons p ps ih =>
    have hlater : ∀ {g}, n ∈ names g ps →
        ∃ g' stem v, hole stem v ∈ p :: ps ∧ n = Naming.name g' stem := by
      intro g hn
      obtain ⟨g', stem, v, hmem, rfl⟩ := ih hn
      exact ⟨g', stem, v, List.mem_cons_of_mem p hmem, rfl⟩
    cases p with
    | text s => exact hlater hn
    | hole stem v =>
      rcases List.mem_cons.1 hn with rfl | hn
      · exact ⟨g, stem, v, List.mem_cons_self, rfl⟩
      · exact hlater hn

theorem isName_of_mem_names {ps : List Piece} (h : Nameable ps) {g : Naming} {n : List Char}
    (hn : n ∈ names g ps) : Filling.IsName n := by
  obtain ⟨g', stem, v, hmem, rfl⟩ := exists_of_mem_names hn
  exact isName_name (h stem v hmem)

namespace Layout

theorem exists_append {ps qs : List Piece} {out : List Char} (h : Layout (ps ++ qs) out) :
    ∃ a b, out = a ++ b ∧ Layout ps a ∧ Layout qs b := by
  induction ps generalizing out with
  | nil => exact ⟨[], out, rfl, .nil, h⟩
  | cons p ps ih =>
    cases h with
    | text s h =>
      obtain ⟨a, b, rfl, ha, hb⟩ := ih h
      exact ⟨s.toList ++ a, b, by simp, ha.text s, hb⟩
    | numbered stem v before h =>
      obtain ⟨a, b, rfl, ha, hb⟩ := ih h
      exact ⟨placeholder before ++ a, b, by simp, ha.numbered stem v before, hb⟩
    | kept stem v name h =>
      obtain ⟨a, b, rfl, ha, hb⟩ := ih h
      exact ⟨Sql.hole name ++ a, b, by simp, ha.kept stem v name, hb⟩

theorem exists_rest {s : String} {ps : List Piece} {out : List Char}
    (h : Layout (.text s :: ps) out) : ∃ rest, out = s.toList ++ rest ∧ Layout ps rest := by
  cases h with
  | text s h => exact ⟨_, rfl, h⟩

theorem eq_nil {out : List Char} (h : Layout [] out) : out = [] := by
  cases h
  rfl

theorem eq_of_clause {keyword : String} {texts : List String} {out : List Char}
    (h : Layout (Statement.clause keyword texts) out) :
    out = (Statement.clauseText keyword texts).toList := by
  unfold Statement.clause at h
  unfold Statement.clauseText
  split at h
  · next hempty => simp [h.eq_nil, hempty]
  · next hempty =>
    obtain ⟨rest, rfl, hrest⟩ := h.exists_rest
    simp [hrest.eq_nil, hempty]

end Layout

end Piece

namespace Statement

/-- No text of the statement spells out a hole for one of its values. -/
def SpellsNoHole (s : Statement) : Prop :=
  ∀ n ∈ Piece.names {} s.pieces, ¬ hole n <:+: Piece.skeleton s.pieces

instance (s : Statement) : Decidable s.SpellsNoHole :=
  inferInstanceAs (Decidable (∀ n ∈ Piece.names {} s.pieces,
    ¬ hole n <:+: Piece.skeleton s.pieces))

/-- Texts without `%(` spell out no hole. -/
theorem spellsNoHole_of_holeFree {s : Statement} (h : ∀ t ∈ s.sources, HoleFree t.toList) :
    s.SpellsNoHole := by
  intro n _ hin
  have hfree : HoleFree (Piece.skeleton s.pieces) := chain_skeleton local_opensNoHole h
  have hhole : HoleFree (hole n) := hfree.infix hin
  simp [hole, HoleFree, OpensNoHole] at hhole

theorem layout_text {s : Statement} (h : s.SpellsNoHole) : Piece.Layout s.pieces s.text.toList := by
  have hfilling : Filling (Piece.names {} s.pieces) (Piece.template {} s.pieces)
      (fill (Piece.names {} s.pieces) 0 (Piece.template {} s.pieces)) := Filling.of_fill 0 _
  rw [text, String.toList_ofList]
  exact Piece.layout_of_filling (fun n hn => Piece.isName_of_mem_names s.nameable hn) s.nameable h
    hfilling

/-- **The layout of a statement.** Everything but the condition and the limit is as it was put
together. -/
theorem exists_layout {s : Statement} (h : s.SpellsNoHole) :
    ∃ condition limit, Piece.Layout s.conditionPieces condition ∧
      Piece.Layout [.hole plainStem (.int s.limit)] limit ∧
      s.text.toList = s.opening ++ condition ++ s.closing ++ limit := by
  obtain ⟨front, back, htext, hfront, hback⟩ := Piece.Layout.exists_append (layout_text h)
  obtain ⟨front, order, rfl, hfront, horder⟩ := hfront.exists_append
  obtain ⟨front, groups, rfl, hfront, hgroups⟩ := hfront.exists_append
  obtain ⟨rest, rfl, hrest⟩ := hfront.exists_rest
  obtain ⟨condition, rfl, hcondition⟩ := hrest.exists_rest
  obtain ⟨limit, rfl, hlimit⟩ := hback.exists_rest
  refine ⟨condition, limit, hcondition, hlimit, ?_⟩
  rw [htext, horder.eq_of_clause, hgroups.eq_of_clause]
  simp [opening, closing]

end Statement

end MetricQuery.Sql
