import MetricQuery.Proofs.RowOrder
import MetricQuery.Proofs.WrittenNames

/-!
# Quoted names as tokens

Output columns and sort keys are written between quotes, and the slugs of sort keys may come from a
caller unchecked.

**Theorem (`tokenized_of_compiled`).** Whatever the registry, a slug without `%(` is written as one
quoted name: whoever reads from its first quote, with a quote written twice for one of the name,
stops at its last one and has the slug. The sort keys of a query are read back one by one, and the
list of them ends where the limit begins.

An empty slug is a sort key like any other, but no name of a column: its column has a label that is
made up (`not_always_tokenized`). That label is read back as one identifier all the same.

Reading is by functions of its own (`readName?`, `readKey?`), so nothing is said there of how names
are written. That a slug stands in the text as it was put together is known although other texts may
hold `%(`: no name of a hole holds a blank, so no hole reaches over a separator (`IsSeparator`), and
the parts between separators are filled each by itself.
-/

namespace MetricQuery.Sql

/-! ## Reading sort keys -/

/-- Reads a sort key: the key, and the text after it. -/
def readKey? (cs : List Char) : Option (SortKey × List Char) :=
  match readName? cs with
  | some (name, ' ' :: 'A' :: 'S' :: 'C' :: rest) => some (⟨String.ofList name, .ascending⟩, rest)
  | some (name, ' ' :: 'D' :: 'E' :: 'S' :: 'C' :: rest) =>
    some (⟨String.ofList name, .descending⟩, rest)
  | _ => none

/-- The text begins with these sort keys, and the list ends before `after`: only a comma would
continue it. -/
inductive ReadsKeys : List Char → List SortKey → List Char → Prop
  | last {cs after : List Char} {k : SortKey} (h : readKey? cs = some (k, after))
      (hend : after.head? ≠ some ',') : ReadsKeys cs [k] after
  | next {cs rest after : List Char} {k : SortKey} {ks : List SortKey}
      (h : readKey? cs = some (k, ',' :: ' ' :: rest)) (hrest : ReadsKeys rest ks after) :
      ReadsKeys cs (k :: ks) after

theorem readKey?_written (k : SortKey) (after : List Char) :
    readKey? (k.written.toList ++ after) = some (k, after) := by
  obtain ⟨slug, direction⟩ := k
  cases direction with
  | ascending =>
    have hread := readName?_quotedName slug (' ' :: 'A' :: 'S' :: 'C' :: after) (by simp)
    simp [readKey?, SortKey.written, hread]
  | descending =>
    have hread := readName?_quotedName slug (' ' :: 'D' :: 'E' :: 'S' :: 'C' :: after) (by simp)
    simp [readKey?, SortKey.written, hread]

/-- A text is read as sort keys in one way. -/
theorem ReadsKeys.unique {cs after after' : List Char} {ks ks' : List SortKey}
    (h : ReadsKeys cs ks after) (h' : ReadsKeys cs ks' after') : ks = ks' ∧ after = after' := by
  induction h generalizing ks' after' with
  | last h hend =>
    cases h' with
    | last h' _ =>
      obtain ⟨rfl, rfl⟩ := Prod.mk.inj (Option.some.inj (h.symm.trans h'))
      exact ⟨rfl, rfl⟩
    | next h' _ =>
      obtain ⟨-, rfl⟩ := Prod.mk.inj (Option.some.inj (h.symm.trans h'))
      exact absurd rfl hend
  | next h _ ih =>
    cases h' with
    | last h' hend =>
      obtain ⟨-, rfl⟩ := Prod.mk.inj (Option.some.inj (h.symm.trans h'))
      exact absurd rfl hend
    | next h' hrest' =>
      obtain ⟨rfl, hsame⟩ := Prod.mk.inj (Option.some.inj (h.symm.trans h'))
      obtain rfl : _ = _ := by simpa using hsame
      obtain ⟨rfl, rfl⟩ := ih hrest'
      exact ⟨rfl, rfl⟩

theorem readsKeys_written {ks : List SortKey} (hne : ks ≠ []) {after : List Char}
    (hend : after.head? ≠ some ',') :
    ReadsKeys (", ".toList.intercalate (ks.map fun k => k.written.toList) ++ after) ks after := by
  induction ks with
  | nil => contradiction
  | cons k ks ih =>
    cases ks with
    | nil =>
      have hlast := ReadsKeys.last (readKey?_written k after) hend
      simpa using hlast
    | cons k' ks =>
      have hnext := ReadsKeys.next (readKey?_written k _) (ih (List.cons_ne_nil _ _))
      simpa using hnext

/-! ## Separators -/

/-- Text that no hole reaches over: it holds a blank, and before that no hole can end. -/
def IsSeparator (sep : List Char) : Prop :=
  '%' ∉ sep ∧ ' ' ∈ sep ∧ 's' ∉ sep.takeWhile (· != ' ')

instance : DecidablePred IsSeparator := fun _ => inferInstanceAs (Decidable (_ ∧ _ ∧ _))

/-- A hole that reached into a separator would end before its blank, and a hole ends with `s`. -/
theorem IsSeparator.not_prefix_of_hole {sep n x y : List Char} (hsep : IsSeparator sep)
    (hblank : ' ' ∉ n) (hhole : hole n = x ++ y) (hne : y ≠ []) (b : List Char) :
    ¬ y <+: sep ++ b := by
  obtain ⟨-, hmem, hlast⟩ := hsep
  obtain ⟨w, v, rfl, hw⟩ := List.eq_append_cons_of_mem hmem
  have hend : 's' ∉ w := by
    rw [List.takeWhile_append_of_pos (by
      intro c hc
      exact bne_iff_ne.2 (ne_of_mem_of_not_mem hc hw))] at hlast
    simpa using hlast
  have hquiet : ' ' ∉ y := by
    intro hy
    have hin : ' ' ∈ hole n := hhole ▸ List.mem_append_right x hy
    simp [hole, hblank] at hin
  have hs : 's' ∈ y := by
    have hlast : (x ++ y).getLast? = some 's' := by
      rw [← hhole, hole, List.getLast?_append_of_ne_nil _ (List.cons_ne_nil _ _)]
      rfl
    rw [List.getLast?_append_of_ne_nil x hne] at hlast
    exact List.mem_of_getLast? hlast
  intro hpre
  have hfront : w ++ [' '] <+: w ++ ' ' :: v ++ b := by simp
  rcases List.prefix_or_prefix_of_prefix hpre hfront with h | h
  · rcases List.prefix_concat_iff.1 h with rfl | hy
    · exact hquiet (by simp)
    · exact hend (hy.subset hs)
  · exact hquiet (h.subset (by simp))
namespace Filling

variable {names : List (List Char)}

/-- Text in two parts is filled part by part, if no hole begins in the first and ends in the
second. -/
theorem exists_parts {a b out : List Char}
    (hcross : ∀ n ∈ names, ∀ x y, hole n = x ++ y → y ≠ [] → ¬ y <+: b)
    (h : Filling names (a ++ b) out) :
    ∃ out₁ out₂, out = out₁ ++ out₂ ∧ Filling names a out₁ ∧ Filling names b out₂ := by
  generalize hwhole : a ++ b = whole at h
  induction h generalizing a with
  | nil =>
    obtain ⟨rfl, rfl⟩ := List.append_eq_nil_iff.1 hwhole
    exact ⟨[], [], rfl, .nil, .nil⟩
  | keep c h ih =>
    cases a with
    | nil =>
      have hb : b = c :: _ := hwhole
      exact ⟨[], _, rfl, .nil, hb ▸ h.keep c⟩
    | cons d a =>
      obtain ⟨rfl, hrest⟩ := List.cons.inj hwhole
      obtain ⟨out₁, out₂, rfl, ha, hb⟩ := ih hrest
      exact ⟨d :: out₁, out₂, rfl, ha.keep d, hb⟩
  | @number name cs out hname h ih =>
    rcases List.append_eq_append_iff.1 hwhole with ⟨m, hhole, hb⟩ | ⟨m, ha, hcs⟩
    · -- The hole would end after the first part, so it ends with it.
      have hm : m = [] := by
        by_contra hne
        exact hcross name hname a m hhole hne (hb ▸ List.prefix_append m cs)
      obtain ⟨out₁, out₂, rfl, hnil, hrest⟩ := ih (a := []) (by simpa [hm] using hb)
      cases hnil
      refine ⟨filled names name, out₂, rfl, ?_, hrest⟩
      have hfull : a = hole name ++ [] := by simpa [hm] using hhole.symm
      rw [hfull]
      simpa using number hname .nil
    · obtain ⟨out₁, out₂, rfl, hm, hb⟩ := ih hcs.symm
      exact ⟨filled names name ++ out₁, out₂, by simp, ha ▸ hm.number hname, hb⟩

theorem eq_nil {out : List Char} (h : Filling names [] out) : out = [] := by
  generalize hnil : ([] : List Char) = cs at h
  cases h with
  | nil => rfl
  | keep c h => contradiction
  | number hname h => simp [hole] at hnil

/-- Text without `%(` stays as it is. -/
theorem eq_of_holeFree {cs out : List Char} (hfree : HoleFree cs) (h : Filling names cs out) :
    out = cs := by
  have hnone : ∀ t, t <:+ cs → t ≠ [] → ∀ n ∈ names, ¬ hole n <+: t ++ [] := by
    intro t ht _ n _ hpre
    rw [List.append_nil] at hpre
    have hhole : HoleFree (hole n) := hfree.infix (hpre.isInfix.trans ht.isInfix)
    simp [hole, HoleFree, OpensNoHole] at hhole
  have hwhole : Filling names (cs ++ []) out := by simpa using h
  obtain ⟨rest, rfl, hrest⟩ := hwhole.exists_of_append hnone
  rw [hrest.eq_nil, List.append_nil]

variable (hblank : ∀ n ∈ names, ' ' ∉ n)

include hblank

theorem exists_of_separator (sep : List Char) (hsep : IsSeparator sep) {a b out : List Char}
    (h : Filling names (a ++ (sep ++ b)) out) :
    ∃ out₁ out₂, out = out₁ ++ (sep ++ out₂) ∧ Filling names a out₁ ∧ Filling names b out₂ := by
  obtain ⟨out₁, out₂, rfl, ha, hrest⟩ := h.exists_parts fun n hn x y hhole hne =>
    hsep.not_prefix_of_hole (hblank n hn) hhole hne b
  obtain ⟨out₃, rfl, hb⟩ := hrest.exists_of_append (by
    intro t ht hne n _ hpre
    obtain ⟨c, t, rfl⟩ := List.exists_cons_of_ne_nil hne
    obtain ⟨rfl, -⟩ : '%' = c ∧ _ := by simpa [hole] using hpre
    exact hsep.1 (ht.subset List.mem_cons_self))
  exact ⟨out₁, out₃, rfl, ha, hb⟩

theorem exists_of_intercalate (sep : List Char) (hsep : IsSeparator sep)
    {texts : List (List Char)} {out : List Char} (h : Filling names (sep.intercalate texts) out) :
    ∃ outs, out = sep.intercalate outs ∧ List.Forall₂ (Filling names) texts outs := by
  induction texts generalizing out with
  | nil => exact ⟨[], h.eq_nil, .nil⟩
  | cons t texts ih =>
    cases texts with
    | nil => exact ⟨[out], by simp, .cons (by simpa using h) .nil⟩
    | cons u texts =>
      rw [List.intercalate_cons_cons, List.append_assoc] at h
      obtain ⟨out₁, out₂, rfl, ht, hrest⟩ := exists_of_separator hblank sep hsep h
      obtain ⟨outs, rfl, houts⟩ := ih hrest
      refine ⟨out₁ :: outs, ?_, .cons ht houts⟩
      cases houts with
      | cons _ _ => simp

end Filling

namespace Piece

theorem gap_notMem_of_mem_names {ps : List Piece} (h : Nameable ps) {g : Naming} {n : List Char}
    (hn : n ∈ names g ps) {c : Char} (hc : isGap c = true) : c ∉ n := by
  obtain ⟨g', stem, v, hmem, rfl⟩ := exists_of_mem_names hn
  exact gap_notMem_name hc (h stem v hmem c hc)

theorem exists_template_append (g : Naming) (ps qs : List Piece) :
    ∃ g', template g (ps ++ qs) = template g ps ++ template g' qs := by
  induction ps generalizing g with
  | nil => exact ⟨g, rfl⟩
  | cons p ps ih =>
    cases p with
    | text s =>
      obtain ⟨g', hrest⟩ := ih g
      exact ⟨g', by simp [template, hrest]⟩
    | hole stem v =>
      obtain ⟨g', hrest⟩ := ih (g.add stem)
      exact ⟨g', by simp [template, hrest]⟩

end Piece

/-! ## Columns and sort keys in the text -/

namespace Statement

/-- Output columns and sort keys, between what else there is in a statement. -/
def cutText (items : List (List Char)) (middle : List Char) (keys : List (List Char))
    (limit : List Char) : List Char :=
  "SELECT ".toList ++ (", ".toList.intercalate items ++ (" \nFROM ".toList ++ (middle ++
    (" ORDER BY ".toList ++ (", ".toList.intercalate keys ++ (" \n LIMIT ".toList ++ limit))))))

/-- The text of the statement, cut between columns and between sort keys. -/
structure Cut (s : Statement) (items : List (List Char)) (middle : List Char)
    (keys : List (List Char)) (limit : List Char) : Prop where
  text : s.text.toList = cutText items middle keys limit
  columns : List.Forall₂ (fun c item => ∃ label, IsLabel c.expr.title c.name label ∧
    (HoleFree c.name.toList → ∃ value, item = value ++ (" AS ".toList ++ label.toList)))
    s.columns items
  order : List.Forall₂ (fun k key => HoleFree k.slug.toList → key = k.written.toList) s.order keys

theorem exists_template {s : Statement} (h : s.order ≠ []) :
    ∃ middle limit, Piece.template {} s.pieces =
      cutText (s.columnTexts.map String.toList) middle (s.order.map fun k => k.written.toList)
        limit := by
  have horder : clause " ORDER BY " (s.order.map sortText) =
      [.text (" ORDER BY " ++ ", ".intercalate (s.order.map SortKey.written))] := by
    rw [clause, if_neg (by simpa using h), funext sortText_eq_written]
  obtain ⟨g, hrest⟩ := Piece.exists_template_append {}
    (s.conditionPieces ++ clause " GROUP BY " (s.groups.map Expr.text))
    [.text (" ORDER BY " ++ ", ".intercalate (s.order.map SortKey.written)),
      .text " \n LIMIT ", .hole plainStem (.int s.limit)]
  refine ⟨(tableName s.table ++ " \nWHERE ").toList ++ Piece.template {}
    (s.conditionPieces ++ clause " GROUP BY " (s.groups.map Expr.text)),
    hole (g.name plainStem), ?_⟩
  rw [pieces, horder]
  unfold cutText
  simp only [List.cons_append, List.append_assoc, List.nil_append] at hrest ⊢
  simp only [Piece.template, hrest, String.toList_append, String.toList_intercalate,
    List.map_map, Function.comp_def, List.append_assoc, List.append_nil]

theorem exists_cut {s : Statement} (h : s.order ≠ []) :
    ∃ items middle keys limit, s.Cut items middle keys limit := by
  have hblank : ∀ n ∈ Piece.names {} s.pieces, ' ' ∉ n := fun n hn =>
    Piece.gap_notMem_of_mem_names s.nameable hn (by decide)
  have hfilling : Filling (Piece.names {} s.pieces) (Piece.template {} s.pieces) s.text.toList := by
    rw [text, String.toList_ofList]
    exact Filling.of_fill 0 _
  obtain ⟨middle, limit, htemplate⟩ := exists_template h
  rw [htemplate] at hfilling
  obtain ⟨front, rest, htext, hfront, hrest⟩ :=
    Filling.exists_of_separator hblank "SELECT ".toList (a := []) (by decide) hfilling
  obtain ⟨columns, rest, rfl, hcolumns, hrest⟩ :=
    Filling.exists_of_separator hblank " \nFROM ".toList (by decide) hrest
  obtain ⟨middle, rest, rfl, -, hrest⟩ :=
    Filling.exists_of_separator hblank " ORDER BY ".toList (by decide) hrest
  obtain ⟨order, limit, rfl, horder, -⟩ :=
    Filling.exists_of_separator hblank " \n LIMIT ".toList (by decide) hrest
  obtain ⟨items, rfl, hitems⟩ :=
    Filling.exists_of_intercalate hblank ", ".toList (by decide) hcolumns
  obtain ⟨keys, rfl, hkeys⟩ :=
    Filling.exists_of_intercalate hblank ", ".toList (by decide) horder
  refine ⟨items, middle, keys, limit, {
    text := by rw [htext, hfront.eq_nil]; rfl
    columns := ?_
    order := ?_ }⟩
  · rw [List.forall₂_map_left_iff] at hitems
    refine (forall₂_comp s.labelled_columnTexts hitems).imp ?_
    rintro c item ⟨_, ⟨label, hlabel, rfl⟩, hitem⟩
    refine ⟨label, hlabel, fun hfree => ?_⟩
    rw [Column.text, String.toList_append, String.toList_append, List.append_assoc] at hitem
    obtain ⟨value, name, rfl, -, hname⟩ :=
      Filling.exists_of_separator hblank " AS ".toList (by decide) hitem
    have htoken : HoleFree label.toList := local_opensNoHole.chain_label hlabel hfree
    exact ⟨value, by rw [hname.eq_of_holeFree htoken]⟩
  · rw [List.forall₂_map_left_iff] at hkeys
    refine hkeys.imp fun k key hkey hfree => hkey.eq_of_holeFree ?_
    rw [← sortText_eq_written]
    exact local_opensNoHole.chain_sortText hfree

/-- An item of a list in the text is followed by the separator or by what follows the list. -/
theorem exists_of_mem_intercalate (sep : List Char) {x : List Char} {xs : List (List Char)}
    (h : x ∈ xs) (tail : List Char) :
    ∃ before after, sep.intercalate xs ++ tail = before ++ (x ++ after) ∧
      (sep <+: after ∨ after = tail) := by
  induction xs with
  | nil => simp at h
  | cons y xs ih =>
    cases xs with
    | nil =>
      obtain rfl : x = y := by simpa using h
      exact ⟨[], tail, by simp, .inr rfl⟩
    | cons z xs =>
      rw [List.intercalate_cons_cons]
      rcases List.mem_cons.1 h with rfl | h
      · exact ⟨[], sep ++ (sep.intercalate (z :: xs) ++ tail), by simp,
          .inl (List.prefix_append _ _)⟩
      · obtain ⟨before, after, hrest, hafter⟩ := ih h
        refine ⟨y ++ sep ++ before, after, ?_, hafter⟩
        rw [List.append_assoc, hrest]
        simp only [List.append_assoc]

namespace Cut

variable {s : Statement} {items : List (List Char)} {middle : List Char}
  {keys : List (List Char)} {limit : List Char}

/-- A column stands under its label, and no identifier goes on after that. -/
theorem label (cut : s.Cut items middle keys limit) {c : Column} (hc : c ∈ s.columns)
    (hfree : HoleFree c.name.toList) : ∃ label before after, IsLabel c.expr.title c.name label ∧
    s.text.toList = before ++ (" AS ".toList ++ (label.toList ++ after)) ∧
      EndsIdentifier after := by
  obtain ⟨item, hitem, label, hlabel, hshape⟩ := exists_left_of_forall₂ cut.columns.flip hc
  obtain ⟨value, rfl⟩ := hshape hfree
  obtain ⟨before, after, hlist, hafter⟩ := exists_of_mem_intercalate ", ".toList hitem
    (" \nFROM ".toList ++ (middle ++ (" ORDER BY ".toList ++ (", ".toList.intercalate keys ++
      (" \n LIMIT ".toList ++ limit)))))
  refine ⟨label, "SELECT ".toList ++ before ++ value, after, hlabel, ?_, ?_⟩
  · rw [cut.text]
    unfold cutText
    rw [hlist]
    simp only [List.append_assoc]
  · intro d hd
    rcases hafter with ⟨rest, rfl⟩ | rfl
    · obtain rfl : ',' = d := by simpa using hd
      decide
    · obtain rfl : ' ' = d := by simpa using hd
      decide

/-- The name of a column is read from its first quote to its last. -/
theorem column (cut : s.Cut items middle keys limit) {c : Column} (hc : c ∈ s.columns)
    (hnamed : c.name ≠ "") (hfree : HoleFree c.name.toList) : ∃ before after,
    s.text.toList = before ++ (" AS ".toList ++ ((quotedName c.name).toList ++ after)) ∧
      readName? ((quotedName c.name).toList ++ after) = some (c.name.toList, after) := by
  obtain ⟨label, before, after, hlabel, htext, hafter⟩ := cut.label hc hfree
  obtain rfl := hlabel.eq_quotedName hnamed
  exact ⟨before, after, htext, readName?_quotedName c.name after fun h => (hafter '"' h).2 rfl⟩

/-- A label that is made up is one identifier as well. -/
theorem unnamed (cut : s.Cut items middle keys limit) {c : Column} (hc : c ∈ s.columns)
    (hname : c.name = "") : ∃ label before after,
    s.text.toList = before ++ (" AS ".toList ++ ((identifier label).toList ++ after)) ∧
      readIdentifier? ((identifier label).toList ++ after) = some (label.toList, after) := by
  have hfree : HoleFree c.name.toList := by simp [hname, HoleFree]
  obtain ⟨_, before, after, hlabel, htext, hafter⟩ := cut.label hc hfree
  cases hlabel with
  | named hnamed => exact absurd hname hnamed
  | numbered g _ =>
    refine ⟨String.ofList (g.name (labelStem c.expr.title)), before, after, htext,
      readIdentifier?_identifier ?_ hafter⟩
    rw [String.toList_ofList]
    exact endsInText_name g _

/-- A sort key is read back, and nothing of what follows it is taken. -/
theorem key (cut : s.Cut items middle keys limit) {k : SortKey} (hk : k ∈ s.order)
    (hfree : HoleFree k.slug.toList) : ∃ before after,
    s.text.toList = before ++ (k.written.toList ++ after) ∧
      readKey? (k.written.toList ++ after) = some (k, after) := by
  obtain ⟨item, hitem, hshape⟩ := exists_left_of_forall₂ cut.order.flip hk
  obtain rfl := hshape hfree
  obtain ⟨before, after, hlist, -⟩ := exists_of_mem_intercalate ", ".toList hitem
    (" \n LIMIT ".toList ++ limit)
  refine ⟨"SELECT ".toList ++ (", ".toList.intercalate items ++ (" \nFROM ".toList ++ (middle ++
    (" ORDER BY ".toList ++ before)))), after, ?_, readKey?_written k after⟩
  rw [cut.text]
  unfold cutText
  rw [hlist]
  simp only [List.append_assoc]

theorem keys_eq (cut : s.Cut items middle keys limit)
    (hfree : ∀ k ∈ s.order, HoleFree k.slug.toList) :
    keys = s.order.map fun k => k.written.toList := by
  have horder := cut.order
  clear cut
  generalize s.order = order at hfree horder
  induction horder with
  | nil => rfl
  | cons hkey _ ih =>
    obtain ⟨hk, hrest⟩ := List.forall_mem_cons.1 hfree
    rw [hkey hk, ih hrest, List.map_cons]

/-- The sort keys are read one by one, and there are no others before the limit. -/
theorem readsKeys_iff (cut : s.Cut items middle keys limit) (hne : s.order ≠ [])
    (hfree : ∀ k ∈ s.order, HoleFree k.slug.toList) (ks : List SortKey) (after : List Char) :
    ReadsKeys (", ".toList.intercalate keys ++ (" \n LIMIT ".toList ++ limit)) ks after ↔
      ks = s.order ∧ after = " \n LIMIT ".toList ++ limit := by
  have hreads : ReadsKeys (", ".toList.intercalate keys ++ (" \n LIMIT ".toList ++ limit)) s.order
      (" \n LIMIT ".toList ++ limit) := by
    rw [cut.keys_eq hfree]
    exact readsKeys_written hne (by simp)
  constructor
  · intro h
    exact h.unique hreads
  · rintro ⟨rfl, rfl⟩
    exact hreads

end Cut

end Statement

end MetricQuery.Sql

namespace MetricQuery

open Sql

/-! ## Queries -/

/-- The names of the query's columns and its sort keys stand in its text as tokens. -/
structure Query.Tokenized (p : Plan) (q : Query) : Prop where
  names : q.columnNames = q.metrics.map Metric.slug ++ q.dimensions.map Dimension.slug
  sorted : p.SortsBy q.metrics q.dimensions q.statement.order
  /-- Columns and sort keys are written as lists, and the list of keys is read back as it was. -/
  clauses : ∃ items middle keys limit, q.statement.Cut items middle keys limit ∧
    ((∀ k ∈ q.statement.order, HoleFree k.slug.toList) → ∀ ks after,
      ReadsKeys (", ".toList.intercalate keys ++ (" \n LIMIT ".toList ++ limit)) ks after ↔
        ks = q.statement.order ∧ after = " \n LIMIT ".toList ++ limit)
  column : ∀ c ∈ q.statement.columns, c.name ≠ "" → HoleFree c.name.toList → ∃ before after,
    q.sql.toList = before ++ (" AS ".toList ++ ((quotedName c.name).toList ++ after)) ∧
      readName? ((quotedName c.name).toList ++ after) = some (c.name.toList, after)
  unnamed : ∀ c ∈ q.statement.columns, c.name = "" → ∃ label before after,
    q.sql.toList = before ++ (" AS ".toList ++ ((identifier label).toList ++ after)) ∧
      readIdentifier? ((identifier label).toList ++ after) = some (label.toList, after)
  key : ∀ k ∈ q.statement.order, HoleFree k.slug.toList → ∃ before after,
    q.sql.toList = before ++ (k.written.toList ++ after) ∧
      readKey? (k.written.toList ++ after) = some (k, after)

/-- **Names as tokens.** -/
theorem tokenized_of_compiled {registry : Registry} {settings : Settings} {r : Request} {q : Query}
    (h : (compile registry settings r).outcome = .ok q) :
    q.Tokenized r.plan ∧
      (∀ s rest, rest.head? ≠ some '"' →
        readName? ((quotedName s).toList ++ rest) = some (s.toList, rest)) ∧
      (∀ s t, quotedName s = quotedName t ↔ s = t) ∧
      ∀ k after, readKey? (k.written.toList ++ after) = some (k, after) := by
  obtain ⟨made⟩ := exists_compilation h
  have hsorted := (made.sortsBy_iff _).2 rfl
  obtain ⟨items, middle, keys, limit, cut⟩ := Statement.exists_cut hsorted.ne_nil
  have htokenized : q.Tokenized r.plan := {
    names := made.columnNames_eq
    sorted := hsorted
    clauses := ⟨items, middle, keys, limit, cut, cut.readsKeys_iff hsorted.ne_nil⟩
    column := fun c hc hnamed hfree => cut.column hc hnamed hfree
    unnamed := fun c hc hname => cut.unnamed hc hname
    key := fun k hk hfree => cut.key hk hfree }
  exact ⟨htokenized, readName?_quotedName, fun _ _ => quotedName_inj, readKey?_written⟩

/-- A request sorted by texts that would leave their quotes if they could. -/
def quotesRequest : Request :=
  { sampleRequest with
    plan := { sampleRequest.plan with
      sort := some [⟨"day\" DESC, \"region", .descending⟩, ⟨"\"\"", .ascending⟩,
        ⟨"\\\n LIMIT 0; --", .descending⟩] } }

theorem tokenized_quotesRequest :
    ∃ q, (compile (.constant (.ok sampleVerdict)) {} quotesRequest).outcome = .ok q ∧
      q.statement.order.length = 3 ∧
      (∀ k ∈ q.statement.order, HoleFree k.slug.toList) ∧
      q.Tokenized quotesRequest.plan := by
  obtain ⟨q, hq, hmade⟩ : ∃ q,
      (compile (.constant (.ok sampleVerdict)) {} quotesRequest).outcome = .ok q ∧
      (q.statement.order.length, decide (∀ k ∈ q.statement.order, HoleFree k.slug.toList)) =
        (3, true) :=
    exists_of_map_toOption (by decide +kernel)
  obtain ⟨hlength, hfree⟩ := Prod.mk.inj hmade
  exact ⟨q, hq, hlength, of_decide_eq_true hfree, (tokenized_of_compiled hq).1⟩

/-- A catalog with a metric whose slug is empty. -/
def unnamedCatalog : Catalog :=
  .ofLists [{ slug := "", expression := ⟨"total", true⟩, table := ⟨"daily", true⟩ }] [] []

def unnamedRequest : Request where
  plan := { metrics := [""] }
  tenant := "acme"

/-- The column of the empty slug has the label `total_1`. -/
theorem not_always_tokenized :
    ¬ ∀ (registry : Registry) (settings : Settings) (r : Request) (q : Query),
      (compile registry settings r).outcome = .ok q →
      ∀ c ∈ q.statement.columns, HoleFree c.name.toList → ∃ before after,
        q.sql.toList = before ++ (" AS ".toList ++ ((quotedName c.name).toList ++ after)) := by
  intro h
  obtain ⟨q, hq, hmade⟩ : ∃ q, (compile unnamedCatalog.registry {} unnamedRequest).outcome = .ok q ∧
      (q.columnNames, q.sql) = ([""],
        "SELECT total AS total_1 \nFROM daily \n" ++
          "WHERE tenant_id = $1 ORDER BY \"\" DESC \n LIMIT $2") :=
    exists_of_map_toOption (by decide +kernel)
  obtain ⟨hnames, hsql⟩ := Prod.mk.inj hmade
  have hmem : "" ∈ q.statement.columns.map Column.name := by
    rw [show q.statement.columns.map Column.name = [""] from hnames]
    exact List.mem_singleton_self ""
  obtain ⟨c, hc, hname⟩ := List.mem_map.1 hmem
  obtain ⟨before, after, htext⟩ := h _ _ _ q hq c hc (by simp [hname, HoleFree])
  have htoken : " AS \"\"".toList <:+: q.sql.toList := by
    rw [htext, hname]
    exact ⟨before, after, by simp [quotedName, quotedChars, doubleQuotes]⟩
  rw [hsql] at htoken
  exact absurd htoken (by decide +kernel)

end MetricQuery
