import MetricQuery.Proofs.Sources

/-!
# What the text of a statement is made of

A statement takes in two kinds of text of others. Fragments are taken as they stand. Names are
written as identifiers, so they are bare only where they read as themselves, and so are labels that
are made up for columns without a name.

**Theorem (`Statement.madeOf_template`).** The template of a statement is put together from fixed
words, names and labels written as identifiers, holes, and fragments, and from nothing else.

The theorem is about the template, before holes are numbered: so it holds of texts with a `%(` too.
-/

namespace MetricQuery.Sql

/-! ## Fragments and names -/

/-- The fragment behind the value of a column. -/
def Expr.inner : Expr → Fragment
  | fragment f => f
  | bucketed _ f => f

namespace Subject

def fragment? : Subject → Option Fragment
  | column _ => none
  | fragment f => some f

def column? : Subject → Option String
  | column name => some name
  | fragment _ => none

end Subject

namespace Predicate

/-- The fragment in a predicate: its subject, or the whole condition. -/
def fragment? : Predicate → Option Fragment
  | fragment f => some f
  | p => p.subject?.bind Subject.fragment?

/-- The column that a predicate is about by name. -/
def column? (p : Predicate) : Option String := p.subject?.bind Subject.column?

theorem fragment?_of_subject? {p : Predicate} {s : Subject} (h : p.subject? = some s) :
    p.fragment? = s.fragment? := by
  cases p <;> simp_all [subject?, fragment?]

theorem column?_of_subject? {p : Predicate} {s : Subject} (h : p.subject? = some s) :
    p.column? = s.column? := by
  simp [column?, h]

end Predicate

namespace Statement

/-- The fragments that stand in a statement. -/
def fragments (s : Statement) : List Fragment :=
  s.columns.map (fun c => c.expr.inner) ++ s.conditions.filterMap Predicate.fragment? ++
    s.groups.map Expr.inner

/-- The names that stand in a statement. -/
def names (s : Statement) : List String :=
  s.columns.map Column.name ++ s.table :: s.conditions.filterMap Predicate.column? ++
    s.order.map SortKey.slug

end Statement

theorem Predicate.source_cases (p : Predicate) :
    p.column? = some p.source ∨ ∃ f, p.fragment? = some f ∧ f.text = p.source := by
  cases hs : p.subject? with
  | some s =>
    rw [p.source_eq_of_subject? hs, p.column?_of_subject? hs, p.fragment?_of_subject? hs]
    cases s with
    | column name => exact .inl rfl
    | fragment f => exact .inr ⟨f, rfl, rfl⟩
  | none =>
    cases p with
    | fragment f => exact .inr ⟨f, rfl, rfl⟩
    | _ => cases hs

/-- All text of others in a statement is its names and its fragments. -/
theorem Statement.source_cases {s : Statement} {t : String} (ht : t ∈ s.sources) :
    t ∈ s.names ∨ ∃ f ∈ s.fragments, f.text = t := by
  have hinner : ∀ e : Expr, e.inner.text = e.source := by
    intro e
    cases e <;> rfl
  simp only [sources, names, fragments, Column.sources, List.mem_append, List.mem_cons,
    List.mem_flatMap, List.mem_map, List.mem_filterMap, List.not_mem_nil, or_false] at ht ⊢
  obtain ((⟨c, hc, rfl | rfl⟩ | rfl | ⟨p, hp, rfl⟩) | ⟨e, he, rfl⟩) | ⟨k, hk, rfl⟩ := ht
  · exact .inr ⟨c.expr.inner, .inl (.inl ⟨c, hc, rfl⟩), hinner c.expr⟩
  · exact .inl (.inl (.inl ⟨c, hc, rfl⟩))
  · exact .inl (.inl (.inr (.inl rfl)))
  · obtain hp' | ⟨f, hf, htext⟩ := p.source_cases
    · exact .inl (.inl (.inr (.inr ⟨p, hp, hp'⟩)))
    · exact .inr ⟨f, .inl (.inr ⟨p, hp, hf⟩), htext⟩
  · exact .inr ⟨e.inner, .inr ⟨e, he, rfl⟩, hinner e⟩
  · exact .inl (.inr ⟨k, hk, rfl⟩)

/-! ## Parts of texts -/

/-- A text put together from parts of a kind. -/
inductive MadeOf (P : List Char → Prop) : List Char → Prop
  | nil : MadeOf P []
  | cons {part rest : List Char} (hpart : P part) (hrest : MadeOf P rest) : MadeOf P (part ++ rest)

namespace MadeOf

variable {P Q : List Char → Prop} {a b : List Char}

theorem single (h : P a) : MadeOf P a := by
  simpa using cons h nil

theorem append (ha : MadeOf P a) (hb : MadeOf P b) : MadeOf P (a ++ b) := by
  induction ha with
  | nil => exact hb
  | cons hpart _ ih =>
    rw [List.append_assoc]
    exact cons hpart ih

theorem mono (hPQ : ∀ t, P t → Q t) (h : MadeOf P a) : MadeOf Q a := by
  induction h with
  | nil => exact nil
  | cons hpart _ ih => exact cons (hPQ _ hpart) ih

theorem intercalate (ha : MadeOf P a) {texts : List (List Char)} (h : ∀ t ∈ texts, MadeOf P t) :
    MadeOf P (a.intercalate texts) := by
  induction texts with
  | nil => exact nil
  | cons t texts ih =>
    obtain ⟨ht, hrest⟩ := List.forall_mem_cons.1 h
    cases texts with
    | nil => simpa using ht
    | cons u texts =>
      rw [List.intercalate_cons_cons]
      exact (ht.append ha).append (ih hrest)

end MadeOf

/-- The words that all statements are written with. -/
def fixedWords : List String :=
  ["SELECT ", ", ", " AS ", "DATE_TRUNC('", "day", "week", "month", "', ", "(", ")", " \nFROM ",
    " \nWHERE ", " AND ", " = ", " >= ", " <= ", " IS NULL", " = true", " = false", " BETWEEN ",
    " IN (", " ILIKE ", " GROUP BY ", " ORDER BY ", " ", "ASC", "DESC", " \n LIMIT "]

/-- A part that is a fixed word, one of these names as it is written, a label made from an
expression of one of these texts, one of these texts as it stands, or one of these holes. -/
inductive Ingredient (names : List String) (texts : SqlText → Prop) (holes : List (List Char)) :
    List Char → Prop
  | word {w : String} (hw : w ∈ fixedWords) : Ingredient names texts holes w.toList
  | column {name : String} (hname : name ∈ names) :
      Ingredient names texts holes (identifier name).toList
  | table {name : String} (hname : name ∈ names) :
      Ingredient names texts holes (tableName name).toList
  | quoted {name : String} (hname : name ∈ names) :
      Ingredient names texts holes (quotedName name).toList
  | label (g : Naming) {e : Expr} (he : texts e.inner.source) :
      Ingredient names texts holes (identifier (String.ofList (g.name (labelStem e.title)))).toList
  | verbatim {t : SqlText} (ht : texts t) : Ingredient names texts holes t.text.toList
  | hole {name : List Char} (hname : name ∈ holes) : Ingredient names texts holes (hole name)

section Ingredients

variable {names : List String} {texts : SqlText → Prop} {holes : List (List Char)}

theorem Ingredient.mono {names' : List String} {texts' : SqlText → Prop} {t : List Char}
    (hnames : ∀ n ∈ names, n ∈ names') (htexts : ∀ t, texts t → texts' t)
    (h : Ingredient names texts holes t) : Ingredient names' texts' holes t := by
  cases h with
  | word hw => exact word hw
  | column hname => exact column (hnames _ hname)
  | table hname => exact table (hnames _ hname)
  | quoted hname => exact quoted (hnames _ hname)
  | label g he => exact label g (htexts _ he)
  | verbatim ht => exact verbatim (htexts _ ht)
  | hole hname => exact hole hname

theorem madeOf_word {w : String} (hw : w ∈ fixedWords) :
    MadeOf (Ingredient names texts holes) w.toList := .single (.word hw)

theorem madeOf_commas {ts : List String}
    (h : ∀ t ∈ ts, MadeOf (Ingredient names texts holes) t.toList) :
    MadeOf (Ingredient names texts holes) (", ".intercalate ts).toList := by
  rw [String.toList_intercalate]
  refine (madeOf_word (by decide)).intercalate fun t ht => ?_
  obtain ⟨u, hu, rfl⟩ := List.mem_map.1 ht
  exact h u hu

/-! ## Parts of a statement -/

theorem madeOf_expr {e : Expr} (h : texts e.inner.source) :
    MadeOf (Ingredient names texts holes) e.text.toList := by
  cases e with
  | fragment f => exact .single (.verbatim h)
  | bucketed b f =>
    have hbucket : b.name ∈ fixedWords := by cases b <;> decide
    simp only [Expr.text, String.toList_append]
    exact (((madeOf_word (by decide)).append (madeOf_word hbucket)).append
      (madeOf_word (by decide))).append (.single (.verbatim h)) |>.append (madeOf_word (by decide))

theorem ingredient_label {c : Column} {label : String} (hlabel : IsLabel c.expr.title c.name label)
    (hname : c.name ∈ names) (h : texts c.expr.inner.source) :
    Ingredient names texts holes label.toList := by
  cases hlabel with
  | named _ => exact .quoted hname
  | numbered g _ => exact .label g h

theorem madeOf_column {c : Column} {label : String} (hlabel : IsLabel c.expr.title c.name label)
    (hname : c.name ∈ names) (h : texts c.expr.inner.source) :
    MadeOf (Ingredient names texts holes) (c.text label).toList := by
  simp only [Column.text, String.toList_append]
  exact ((madeOf_expr h).append (madeOf_word (by decide))).append
    (.single (ingredient_label hlabel hname h))

theorem madeOf_sortText {k : SortKey} (hname : k.slug ∈ names) :
    MadeOf (Ingredient names texts holes) (sortText k).toList := by
  have hkeyword : k.direction.keyword ∈ fixedWords := by cases k.direction <;> decide
  simp only [sortText, String.toList_append]
  exact ((MadeOf.single (.quoted hname)).append (madeOf_word (by decide))).append
    (madeOf_word hkeyword)

theorem madeOf_subject {s : Subject} (hname : ∀ n ∈ s.column?, n ∈ names)
    (h : ∀ f ∈ s.fragment?, texts f.source) :
    MadeOf (Ingredient names texts holes) s.text.toList := by
  cases s with
  | column name => exact .single (.column (hname name rfl))
  | fragment f => exact .single (.verbatim (h f rfl))

/-! ## Pieces -/

theorem madeOf_template {g : Naming} {ps : List Piece}
    (h : ∀ s, Piece.text s ∈ ps → MadeOf (Ingredient names texts holes) s.toList)
    (hholes : ∀ n ∈ Piece.names g ps, n ∈ holes) :
    MadeOf (Ingredient names texts holes) (Piece.template g ps) := by
  induction ps generalizing g with
  | nil => exact .nil
  | cons p ps ih =>
    have hrest := fun s hs => h s (List.mem_cons_of_mem p hs)
    cases p with
    | text s => exact (h s List.mem_cons_self).append (ih hrest hholes)
    | hole stem v =>
      obtain ⟨hname, hholes⟩ := List.forall_mem_cons.1 hholes
      exact .cons (.hole hname) (ih hrest hholes)

/-- A predicate that is about a subject is written with the subject and fixed words. -/
theorem madeOf_text_of_subject? {p : Predicate} {s : Subject} (hs : p.subject? = some s)
    (hsubject : MadeOf (Ingredient names texts holes) s.text.toList) {t : String}
    (ht : Piece.text t ∈ p.pieces) : MadeOf (Ingredient names texts holes) t.toList := by
  have hafter : ∀ w ∈ fixedWords, MadeOf (Ingredient names texts holes) (s.text ++ w).toList := by
    intro w hw
    rw [String.toList_append]
    exact hsubject.append (madeOf_word hw)
  cases p with
  | compare s' c v =>
    obtain rfl : s' = s := Option.some.inj hs
    obtain rfl : t = s'.text ++ c.symbol := by simpa [Predicate.pieces] using ht
    exact hafter _ (by cases c <;> decide)
  | isNull s' =>
    obtain rfl : s' = s := Option.some.inj hs
    obtain rfl : t = s'.text ++ " IS NULL" := by simpa [Predicate.pieces] using ht
    exact hafter _ (by decide)
  | isTruth s' b =>
    obtain rfl : s' = s := Option.some.inj hs
    obtain rfl : t = s'.text ++ if b then " = true" else " = false" := by
      simpa [Predicate.pieces] using ht
    exact hafter _ (by cases b <;> decide)
  | between s' low high =>
    obtain rfl : s' = s := Option.some.inj hs
    obtain rfl | rfl : t = s'.text ++ " BETWEEN " ∨ t = " AND " := by
      simpa [Predicate.pieces] using ht
    · exact hafter _ (by decide)
    · exact madeOf_word (by decide)
  | oneOf s' choices =>
    obtain rfl : s' = s := Option.some.inj hs
    simp only [Predicate.pieces, List.cons_append, List.mem_cons, List.mem_append,
      Piece.text.injEq, List.not_mem_nil, or_false] at ht
    obtain rfl | ht | rfl := ht
    · exact hafter _ (by decide)
    · obtain ht | ⟨ps, hps, ht⟩ := Piece.mem_join ht
      · obtain rfl : t = ", " := by simpa using ht
        exact madeOf_word (by decide)
      · obtain ⟨v, -, rfl⟩ := List.mem_map.1 hps
        simp at ht
    · exact madeOf_word (by decide)
  | like s' pattern =>
    obtain rfl : s' = s := Option.some.inj hs
    obtain rfl : t = s'.text ++ " ILIKE " := by simpa [Predicate.pieces] using ht
    exact hafter _ (by decide)
  | fragment f => cases hs

theorem madeOf_predicate {p : Predicate} (hname : ∀ n ∈ p.column?, n ∈ names)
    (h : ∀ f ∈ p.fragment?, texts f.source) {t : String} (ht : Piece.text t ∈ p.pieces) :
    MadeOf (Ingredient names texts holes) t.toList := by
  cases hs : p.subject? with
  | some s =>
    rw [Predicate.column?_of_subject? hs] at hname
    rw [Predicate.fragment?_of_subject? hs] at h
    exact madeOf_text_of_subject? hs (madeOf_subject hname h) ht
  | none =>
    cases p with
    | fragment f =>
      obtain rfl : t = "(" ++ f.text ++ ")" := by simpa [Predicate.pieces] using ht
      simp only [String.toList_append]
      exact ((madeOf_word (by decide)).append (.single (.verbatim (h f rfl)))).append
        (madeOf_word (by decide))
    | _ => cases hs

theorem madeOf_clause {keyword : String} (hkeyword : keyword ∈ fixedWords) {ts : List String}
    (h : ∀ t ∈ ts, MadeOf (Ingredient names texts holes) t.toList) {t : String}
    (ht : Piece.text t ∈ Statement.clause keyword ts) :
    MadeOf (Ingredient names texts holes) t.toList := by
  unfold Statement.clause at ht
  split at ht
  · simp at ht
  · obtain rfl : t = keyword ++ ", ".intercalate ts := by simpa using ht
    rw [String.toList_append]
    exact (madeOf_word hkeyword).append (madeOf_commas h)

end Ingredients

/-! ## Statements -/

namespace Statement

/-- A text that stands in a statement as one of its fragments. -/
def Takes (s : Statement) (t : SqlText) : Prop := ∃ f ∈ s.fragments, f.source = t

section Takes

variable {s : Statement}

theorem takes_column {c : Column} (hc : c ∈ s.columns) :
    c.name ∈ s.names ∧ s.Takes c.expr.inner.source := by
  constructor
  · simp only [names, List.mem_append]
    exact .inl (.inl (List.mem_map_of_mem hc))
  · refine ⟨c.expr.inner, ?_, rfl⟩
    simp only [fragments, List.mem_append, List.mem_map]
    exact .inl (.inl ⟨c, hc, rfl⟩)

theorem takes_predicate {p : Predicate} (hp : p ∈ s.conditions) :
    (∀ n ∈ p.column?, n ∈ s.names) ∧ ∀ f ∈ p.fragment?, s.Takes f.source := by
  constructor
  · intro n hn
    simp only [names, List.mem_append, List.mem_cons]
    exact .inl (.inr (.inr (List.mem_filterMap.2 ⟨p, hp, hn⟩)))
  · intro f hf
    refine ⟨f, ?_, rfl⟩
    simp only [fragments, List.mem_append]
    exact .inl (.inr (List.mem_filterMap.2 ⟨p, hp, hf⟩))

theorem takes_group {e : Expr} (he : e ∈ s.groups) : s.Takes e.inner.source := by
  refine ⟨e.inner, ?_, rfl⟩
  simp only [fragments, List.mem_append]
  exact .inr (List.mem_map_of_mem he)

theorem madeOf_text {holes : List (List Char)} {t : String} (ht : Piece.text t ∈ s.pieces) :
    MadeOf (Ingredient s.names s.Takes holes) t.toList := by
  have hcolumns : ∀ u ∈ s.columnTexts, MadeOf (Ingredient s.names s.Takes holes) u.toList := by
    intro u hu
    obtain ⟨c, hc, label, hlabel, rfl⟩ := exists_of_mem_columnTexts hu
    exact madeOf_column hlabel (takes_column hc).1 (takes_column hc).2
  have hgroups : ∀ u ∈ s.groups.map Expr.text,
      MadeOf (Ingredient s.names s.Takes holes) u.toList := by
    intro u hu
    obtain ⟨e, he, rfl⟩ := List.mem_map.1 hu
    exact madeOf_expr (takes_group he)
  have horder : ∀ u ∈ s.order.map sortText,
      MadeOf (Ingredient s.names s.Takes holes) u.toList := by
    intro u hu
    obtain ⟨k, hk, rfl⟩ := List.mem_map.1 hu
    refine madeOf_sortText ?_
    simp only [names, List.mem_append]
    exact .inr (List.mem_map_of_mem hk)
  have htable : s.table ∈ s.names := by simp [names]
  simp only [pieces, List.cons_append, List.mem_cons, List.mem_append, Piece.text.injEq,
    reduceCtorEq, List.not_mem_nil, or_false] at ht
  obtain rfl | rfl | ((ht | ht) | ht) | rfl := ht
  · rw [String.toList_append]
    exact (madeOf_word (by decide)).append (madeOf_commas hcolumns)
  · simp only [String.toList_append]
    exact ((madeOf_word (by decide)).append (.single (.table htable))).append
      (madeOf_word (by decide))
  · obtain ht | ⟨ps, hps, ht⟩ := Piece.mem_join ht
    · obtain rfl : t = " AND " := by simpa using ht
      exact madeOf_word (by decide)
    · obtain ⟨p, hp, rfl⟩ := List.mem_map.1 hps
      exact madeOf_predicate (takes_predicate hp).1 (takes_predicate hp).2 ht
  · exact madeOf_clause (by decide) hgroups ht
  · exact madeOf_clause (by decide) horder ht
  · exact madeOf_word (by decide)

end Takes

theorem madeOf_template (s : Statement) :
    MadeOf (Ingredient s.names s.Takes (Piece.names {} s.pieces)) (Piece.template {} s.pieces) :=
  Sql.madeOf_template (fun _ ht => madeOf_text ht) fun _ hn => hn

end Statement

end MetricQuery.Sql
