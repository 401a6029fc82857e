import MetricQuery.Proofs.Labels

/-!
# Where the text of a statement comes from

A statement takes in texts of others: fragments, names of columns and tables, slugs
(`Statement.sources`). All other text is fixed: keywords, quotes, brackets, commas and blanks.

**Theorem (`Statement.chain_skeleton`).** If no two neighbours in the sources begin a hole or a
placeholder, then no two neighbours in the whole statement do.

Fixed text fences sources off from each other (`Fence`): it ends a text that stops at `%` or `$`
before a bracket or a digit can follow. The theorem is for any relation of neighbours that fixed
text satisfies (`Local`), so it serves for holes and for placeholders.
-/

namespace MetricQuery.Sql

/-! ## Sources -/

def Expr.source : Expr → String
  | fragment f => f.text
  | bucketed _ f => f.text

def Subject.source : Subject → String
  | column name => name
  | fragment f => f.text

namespace Predicate

/-- What a predicate is about; a whole condition of the registry has no subject. -/
def subject? : Predicate → Option Subject
  | compare s _ _ => some s
  | isNull s => some s
  | isTruth s _ => some s
  | between s _ _ => some s
  | oneOf s _ => some s
  | like s _ => some s
  | fragment _ => none

/-- The text of others in a predicate: its subject, or the whole condition. -/
def source : Predicate → String
  | compare s _ _ => s.source
  | isNull s => s.source
  | isTruth s _ => s.source
  | between s _ _ => s.source
  | oneOf s _ => s.source
  | like s _ => s.source
  | fragment f => f.text

theorem source_eq_of_subject? {p : Predicate} {s : Subject} (h : p.subject? = some s) :
    p.source = s.source := by
  cases p <;> simp_all [subject?, source]

end Predicate

def Column.sources (c : Column) : List String := [c.expr.source, c.name]

/-- The texts of others in a statement. -/
def Statement.sources (s : Statement) : List String :=
  s.columns.flatMap Column.sources ++ s.table :: s.conditions.map Predicate.source ++
    s.groups.map Expr.source ++ s.order.map SortKey.slug

theorem Statement.source_mem_sources {s : Statement} {p : Predicate} (hp : p ∈ s.conditions) :
    p.source ∈ s.sources := by
  simp only [sources, List.mem_append, List.mem_cons]
  exact .inl (.inl (.inr (.inr (List.mem_map_of_mem hp))))

/-! ## Split names -/

theorem splitLast_snd_suffix (mark : Char) (cs : List Char) :
    (Text.splitLast mark cs).2 <:+ cs := by
  have hshape : (Text.splitLast mark cs).2 = (cs.reverse.takeWhile (· != mark)).reverse := by
    unfold Text.splitLast
    dsimp only
    split <;> rfl
  rw [hshape, ← List.reverse_prefix, List.reverse_reverse]
  exact List.takeWhile_prefix _

theorem prefix_of_splitLast {mark : Char} {cs before : List Char}
    (h : (Text.splitLast mark cs).1 = some before) : before <+: cs := by
  unfold Text.splitLast at h
  dsimp only at h
  split at h
  · simp at h
  · next c rest hdrop =>
    obtain rfl : rest.reverse = before := by simpa using h
    rw [← List.reverse_suffix, List.reverse_reverse]
    exact (List.suffix_cons c rest).trans (hdrop ▸ List.dropWhile_suffix _)

/-! ## Fixed text -/

/-- Nothing begins with the character. -/
def isQuiet (c : Char) : Bool := c != '%' && c != '$'

/-- Text that nothing reaches into and nothing begins in. -/
def isFence : List Char → Bool
  | [] => false
  | c :: cs => c != '(' && !c.isDigit && (c :: cs).all isQuiet

/-- Neighbours may only stand in the relation's way if the first is `%` or `$` and the second a
bracket or a digit. -/
structure Local (R : Char → Char → Prop) : Prop where
  quiet : ∀ c, isQuiet c = true → ∀ y, R c y
  closed : ∀ c, c ≠ '(' → c.isDigit = false → ∀ x, R x c

theorem local_opensNoHole : Local OpensNoHole where
  quiet c hc y h := by simp [isQuiet, h.1] at hc
  closed c hc _ x h := hc h.2

namespace Local

variable {R : Char → Char → Prop} (hR : Local R) {a b s : List Char}

include hR

theorem lead (hs : s.all isQuiet = true) : (s ++ b).IsChain R ↔ b.IsChain R := by
  induction s with
  | nil => simp
  | cons c cs ih =>
    obtain ⟨hc, hcs⟩ := by simpa using hs
    have hnext : ∀ y ∈ (cs ++ b).head?, R c y := fun y _ => hR.quiet c hc y
    rw [List.cons_append, List.isChain_cons, and_iff_right hnext, ih (by simpa using hcs)]

theorem fence (hs : isFence s = true) :
    (a ++ (s ++ b)).IsChain R ↔ a.IsChain R ∧ b.IsChain R := by
  cases s with
  | nil => simp [isFence] at hs
  | cons c cs =>
    simp only [isFence, Bool.and_eq_true, bne_iff_ne, ne_eq, Bool.not_eq_true'] at hs
    obtain ⟨⟨hc, hdigit⟩, hquiet⟩ := hs
    have hborder : ∀ x ∈ a.getLast?, ∀ y ∈ (c :: cs ++ b).head?, R x y := by
      intro x _ y hy
      obtain rfl : c = y := by simpa using hy
      exact hR.closed c hc hdigit x
    rw [List.isChain_append, hR.lead hquiet]
    exact ⟨fun h => ⟨h.1, h.2.1⟩, fun h => ⟨h.1, h.2, hborder⟩⟩

theorem fence_end (hs : isFence s = true) : (a ++ s).IsChain R ↔ a.IsChain R := by
  simpa using hR.fence (a := a) (b := []) hs

theorem chain_intercalate (hs : isFence s = true) {texts : List (List Char)}
    (h : ∀ t ∈ texts, t.IsChain R) : (s.intercalate texts).IsChain R := by
  induction texts with
  | nil => simp
  | cons t texts ih =>
    have ht := h t List.mem_cons_self
    have hrest := ih fun u hu => h u (List.mem_cons_of_mem t hu)
    cases texts with
    | nil => simpa using ht
    | cons u texts =>
      rw [List.intercalate_cons_cons]
      simpa using (hR.fence hs).2 ⟨ht, hrest⟩

theorem chain_commas {texts : List String} (h : ∀ t ∈ texts, t.toList.IsChain R) :
    (", ".intercalate texts).toList.IsChain R := by
  rw [String.toList_intercalate]
  refine hR.chain_intercalate (by decide) fun t ht => ?_
  obtain ⟨u, hu, rfl⟩ := List.mem_map.1 ht
  exact h u hu

/-! ## Names -/

theorem chain_doubleQuotes : ∀ {cs : List Char}, cs.IsChain R → (doubleQuotes cs).IsChain R
  | [], _ => by simp [doubleQuotes]
  | c :: cs, h => by
    have hhead : (doubleQuotes cs).head? = cs.head? := by
      cases cs with
      | nil => rfl
      | cons d _ => unfold doubleQuotes; split_ifs with hd <;> simp [hd]
    have hrest := chain_doubleQuotes h.tail
    have hc : (c :: doubleQuotes cs).IsChain R := by
      rw [List.isChain_cons] at h ⊢
      exact ⟨hhead ▸ h.1, hrest⟩
    unfold doubleQuotes
    split_ifs with hquote
    · subst hquote
      exact List.isChain_cons_cons.2 ⟨hR.quiet '"' (by decide) '"', hc⟩
    · exact hc

theorem chain_quotedName {name : String} (h : name.toList.IsChain R) :
    (quotedName name).toList.IsChain R := by
  have hshape : (quotedName name).toList = ['"'] ++ (doubleQuotes name.toList ++ ['"']) := by
    simp [quotedName, quotedChars]
  rw [hshape, hR.lead (by decide), hR.fence_end (by decide)]
  exact hR.chain_doubleQuotes h

theorem chain_identifier {name : String} (h : name.toList.IsChain R) :
    (identifier name).toList.IsChain R := by
  unfold identifier
  split
  · exact h
  · exact hR.chain_quotedName h

theorem chain_tableName {name : String} (h : name.toList.IsChain R) :
    (tableName name).toList.IsChain R := by
  have hafter : (identifier (String.ofList (Text.splitLast '.' name.toList).2)).toList.IsChain R :=
    hR.chain_identifier (by simpa using h.infix (splitLast_snd_suffix '.' name.toList).isInfix)
  unfold tableName
  dsimp only
  split
  · next c rest hschema =>
    have hbefore : (identifier (String.ofList (c :: rest))).toList.IsChain R :=
      hR.chain_identifier (by simpa using h.infix (prefix_of_splitLast hschema).isInfix)
    rw [String.toList_append, String.toList_append, List.append_assoc]
    exact (hR.fence (by decide)).2 ⟨hbefore, hafter⟩
  · exact hafter

/-! ## Parts of a statement -/

theorem chain_expr {e : Expr} (h : e.source.toList.IsChain R) : e.text.toList.IsChain R := by
  cases e with
  | fragment f => exact h
  | bucketed b f =>
    have hbucket : b.name.toList.all isQuiet = true := by cases b <;> decide
    simp only [Expr.text, String.toList_append, List.append_assoc]
    rw [hR.lead (by decide), hR.lead hbucket, hR.lead (by decide), hR.fence_end (by decide)]
    exact h

/-- A label that is made up fits, whatever the expression it is made from. -/
theorem chain_label {title name label : String} (hlabel : IsLabel title name label)
    (h : name.toList.IsChain R) : label.toList.IsChain R := by
  cases hlabel with
  | named _ => exact hR.chain_quotedName h
  | numbered g _ =>
    have hquiet : (g.name (labelStem title)).all isQuiet = true := by
      rw [List.all_eq_true]
      intro c hc
      have hpercent : c ≠ '%' := ne_of_mem_of_not_mem hc (gap_notMem_label (by decide) g title)
      have hdollar : c ≠ '$' := ne_of_mem_of_not_mem hc (gap_notMem_label (by decide) g title)
      simp [isQuiet, hpercent, hdollar]
    refine hR.chain_identifier ?_
    rw [String.toList_ofList]
    simpa using hR.lead (b := []) hquiet

theorem chain_column {c : Column} {label : String} (hlabel : IsLabel c.expr.title c.name label)
    (h : ∀ t ∈ c.sources, t.toList.IsChain R) : (c.text label).toList.IsChain R := by
  simp only [Column.text, String.toList_append, List.append_assoc]
  rw [hR.fence (by decide)]
  exact ⟨hR.chain_expr (h _ (by simp [Column.sources])),
    hR.chain_label hlabel (h _ (by simp [Column.sources]))⟩

theorem chain_subject {s : Subject} (h : s.source.toList.IsChain R) :
    s.text.toList.IsChain R := by
  cases s with
  | column name => exact hR.chain_identifier h
  | fragment f => exact h

theorem chain_sortText {k : SortKey} (h : k.slug.toList.IsChain R) :
    (sortText k).toList.IsChain R := by
  have hkeyword : isFence (" ".toList ++ k.direction.keyword.toList) = true := by
    cases k.direction <;> decide
  simp only [sortText, String.toList_append, List.append_assoc]
  rw [hR.fence_end hkeyword]
  exact hR.chain_quotedName h

theorem chain_predicate {p : Predicate} (h : p.source.toList.IsChain R) :
    (Piece.skeleton p.pieces).IsChain R := by
  cases p with
  | compare s c v =>
    have hsymbol : isFence c.symbol.toList = true := by cases c <;> decide
    simp only [Predicate.pieces, Piece.skeleton, String.toList_append, List.append_assoc]
    exact (hR.fence hsymbol).2 ⟨hR.chain_subject h, List.isChain_singleton _⟩
  | isNull s =>
    simp only [Predicate.pieces, Piece.skeleton, String.toList_append, List.append_nil]
    exact (hR.fence_end (by decide)).2 (hR.chain_subject h)
  | isTruth s b =>
    have htruth : isFence (if b then " = true" else " = false").toList = true := by
      cases b <;> decide
    simp only [Predicate.pieces, Piece.skeleton, String.toList_append, List.append_nil]
    exact (hR.fence_end htruth).2 (hR.chain_subject h)
  | between s low high =>
    have hholes : (['$'] ++ (" AND ".toList ++ ['$'])).IsChain R :=
      (hR.fence (by decide)).2 ⟨List.isChain_singleton _, List.isChain_singleton _⟩
    simp only [Predicate.pieces, Piece.skeleton, String.toList_append, List.append_assoc]
    exact (hR.fence (by decide)).2 ⟨hR.chain_subject h, hholes⟩
  | oneOf s choices =>
    have hholes : (Piece.skeleton (Piece.join ", "
        (choices.map fun v => [.hole plainStem v]))).IsChain R := by
      rw [Piece.skeleton_join]
      refine hR.chain_intercalate (by decide) fun t ht => ?_
      obtain ⟨v, rfl⟩ : ∃ v, t = ['$'] := by
        simp only [List.mem_map, exists_exists_and_eq_and, Piece.skeleton] at ht
        exact ⟨ht.choose, ht.choose_spec.2.symm⟩
      exact List.isChain_singleton _
    simp only [Predicate.pieces, Piece.skeleton, Piece.skeleton_append, String.toList_append,
      List.append_assoc, List.cons_append, List.append_nil]
    rw [hR.fence (by decide), hR.fence_end (by decide)]
    exact ⟨hR.chain_subject h, hholes⟩
  | like s pattern =>
    simp only [Predicate.pieces, Piece.skeleton, String.toList_append, List.append_assoc]
    exact (hR.fence (by decide)).2 ⟨hR.chain_subject h, List.isChain_singleton _⟩
  | fragment f =>
    simp only [Predicate.pieces, Piece.skeleton, String.toList_append, List.append_assoc,
      List.append_nil]
    rw [hR.lead (by decide), hR.fence_end (by decide)]
    exact h

/-! ## Statements -/

theorem chain_condition {s : Statement} (h : ∀ t ∈ s.sources, t.toList.IsChain R) :
    (Piece.skeleton s.conditionPieces).IsChain R := by
  unfold Statement.conditionPieces
  rw [Piece.skeleton_join]
  refine hR.chain_intercalate (by decide) fun t ht => ?_
  obtain ⟨ps, hps, rfl⟩ := List.mem_map.1 ht
  obtain ⟨p, hp, rfl⟩ := List.mem_map.1 hps
  exact hR.chain_predicate (h p.source (Statement.source_mem_sources hp))

/-- A clause stands between any text and what can follow any text. -/
theorem chain_clause {keyword : String} (hkeyword : isFence keyword.toList = true)
    {texts : List String} (h : ∀ t ∈ texts, t.toList.IsChain R) {after : List Char}
    (hafter : ∀ before : List Char, before.IsChain R → (before ++ after).IsChain R)
    {before : List Char} (hbefore : before.IsChain R) :
    (before ++ (Piece.skeleton (Statement.clause keyword texts) ++ after)).IsChain R := by
  unfold Statement.clause
  split
  · exact hafter before hbefore
  · simp only [Piece.skeleton, String.toList_append, List.append_nil, List.append_assoc]
    exact (hR.fence hkeyword).2 ⟨hbefore, hafter _ (hR.chain_commas h)⟩

end Local

theorem Statement.chain_skeleton {R : Char → Char → Prop} (hR : Local R) {s : Statement}
    (h : ∀ t ∈ s.sources, t.toList.IsChain R) : (Piece.skeleton s.pieces).IsChain R := by
  have hcolumns : ∀ t ∈ s.columnTexts, t.toList.IsChain R := by
    intro t ht
    obtain ⟨c, hc, label, hlabel, rfl⟩ := exists_of_mem_columnTexts ht
    refine hR.chain_column hlabel fun u hu => h u ?_
    simp only [sources, List.mem_append, List.mem_cons, List.mem_flatMap]
    exact .inl (.inl (.inl ⟨c, hc, hu⟩))
  have htable : (tableName s.table).toList.IsChain R :=
    hR.chain_tableName (h s.table (by simp [sources]))
  have hgroups : ∀ t ∈ s.groups.map Expr.text, t.toList.IsChain R := by
    intro t ht
    obtain ⟨e, he, rfl⟩ := List.mem_map.1 ht
    refine hR.chain_expr (h e.source ?_)
    simp only [sources, List.mem_append]
    exact .inl (.inr (List.mem_map_of_mem he))
  have horder : ∀ t ∈ s.order.map sortText, t.toList.IsChain R := by
    intro t ht
    obtain ⟨k, hk, rfl⟩ := List.mem_map.1 ht
    refine hR.chain_sortText (h k.slug ?_)
    simp only [sources, List.mem_append]
    exact .inr (List.mem_map_of_mem hk)
  -- A clause may be left out, so what follows it has to fit any text before.
  have hlimit : ∀ before : List Char, before.IsChain R →
      (before ++ (" \n LIMIT ".toList ++ ['$'])).IsChain R := fun before hbefore =>
    (hR.fence (by decide)).2 ⟨hbefore, List.isChain_singleton _⟩
  have hrest : ∀ before : List Char, before.IsChain R →
      (before ++ (Piece.skeleton (clause " GROUP BY " (s.groups.map Expr.text)) ++
        (Piece.skeleton (clause " ORDER BY " (s.order.map sortText)) ++
          (" \n LIMIT ".toList ++ ['$'])))).IsChain R := fun before hbefore =>
    hR.chain_clause (by decide) hgroups
      (fun b hb => hR.chain_clause (by decide) horder hlimit hb) hbefore
  simp only [pieces, Piece.skeleton, Piece.skeleton_append, String.toList_append,
    List.append_assoc, List.cons_append]
  rw [hR.lead (by decide), hR.fence (by decide), hR.fence (by decide)]
  exact ⟨hR.chain_commas hcolumns, htable, hrest _ (hR.chain_condition h)⟩

/-! ## Statements in parts -/

namespace Statement

/-- The written predicates of the condition. -/
def parts (s : Statement) : List Part := Piece.parts 0 (s.conditions.map Predicate.pieces)

/-- What stands before the condition. -/
def opening (s : Statement) : List Char :=
  ("SELECT " ++ ", ".intercalate s.columnTexts ++ " \nFROM " ++ tableName s.table ++
    " \nWHERE ").toList

/-- A clause as it is written. -/
def clauseText (keyword : String) (texts : List String) : String :=
  if texts.isEmpty then "" else keyword ++ ", ".intercalate texts

/-- What stands between the condition and the limit. -/
def closing (s : Statement) : List Char :=
  (clauseText " GROUP BY " (s.groups.map Expr.text) ++
    clauseText " ORDER BY " (s.order.map sortText) ++ " \n LIMIT ").toList

/-- The condition as it is written. -/
def conditionText (s : Statement) : List Char :=
  " AND ".toList.intercalate (s.parts.map Part.text)

theorem numbered_clause (before : Nat) (keyword : String) (texts : List String) :
    Piece.numbered before (clause keyword texts) = (clauseText keyword texts).toList := by
  unfold clause clauseText
  split <;> simp [Piece.numbered]

theorem values_clause (keyword : String) (texts : List String) :
    Piece.values (clause keyword texts) = [] := by
  unfold clause
  split <;> rfl

theorem values_conditionPieces (s : Statement) :
    Piece.values s.conditionPieces = s.parts.flatMap Part.values := by
  rw [conditionPieces, Piece.values_join, parts, List.flatMap_def, List.flatMap_def,
    Piece.values_parts]

theorem params_eq (s : Statement) : s.params = s.parts.flatMap Part.values ++ [.int s.limit] := by
  simp [params, pieces, Piece.values, Piece.values_append, values_clause, values_conditionPieces]

/-- The text of a statement whose sources hold no `%(`. -/
theorem text_eq {s : Statement} (h : ∀ t ∈ s.sources, HoleFree t.toList) :
    s.text.toList = s.opening ++ s.conditionText ++ s.closing ++
      placeholder (s.params.length - 1) := by
  have hcondition : Piece.numbered 0 s.conditionPieces = s.conditionText :=
    Piece.numbered_join " AND " 0 _
  have hlength : s.params.length - 1 = (s.parts.flatMap Part.values).length := by
    simp [params_eq]
  rw [hlength, text_eq_numbered (chain_skeleton local_opensNoHole h)]
  simp [pieces, Piece.numbered, Piece.numbered_append, numbered_clause,
    values_clause, hcondition, values_conditionPieces, opening, closing]

end Statement

end MetricQuery.Sql
