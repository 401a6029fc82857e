import Mathlib.Data.List.TakeWhile
import MetricQuery.Proofs.Scanning

/-!
# Names read back

A name is written as an identifier, bare or between quotes, and the name of a table as one
identifier or as two with a point between them. What is written is read here by functions that know
the rules of identifiers and not how names are written.

**Theorem (`readTable?_tableName`).** Whoever reads a written table has its schema and its name, and
takes in nothing of what follows.

One kind of name is not read back: a name stands bare although a line break ends it, and the reader
takes that for a blank.
-/

namespace MetricQuery.Sql

/-! ## Quoted names -/

/-- Reads on between quotes: what is left of the name, and the text after its last quote. -/
def readQuoted : List Char → Option (List Char × List Char)
  | [] => none
  | [c] => if c = '"' then some ([], []) else none
  | c :: d :: rest =>
    if c = '"' then
      if d = '"' then (readQuoted rest).map (Prod.map ('"' :: ·) id) else some ([], d :: rest)
    else (readQuoted (d :: rest)).map (Prod.map (c :: ·) id)

/-- Reads a quoted name: the name, and the text after it. -/
def readName? : List Char → Option (List Char × List Char)
  | [] => none
  | c :: rest => if c = '"' then readQuoted rest else none

theorem readQuoted_cons {c : Char} (hc : c ≠ '"') (rest : List Char) :
    readQuoted (c :: rest) = (readQuoted rest).map (Prod.map (c :: ·) id) := by
  cases rest with
  | nil => simp [readQuoted, hc]
  | cons d rest => rw [readQuoted, if_neg hc]

theorem readQuoted_two (rest : List Char) :
    readQuoted ('"' :: '"' :: rest) = (readQuoted rest).map (Prod.map ('"' :: ·) id) := by
  rw [readQuoted, if_pos rfl, if_pos rfl]

theorem readQuoted_one {rest : List Char} (h : rest.head? ≠ some '"') :
    readQuoted ('"' :: rest) = some ([], rest) := by
  cases rest with
  | nil => rfl
  | cons d rest =>
    have hd : d ≠ '"' := by simpa using h
    rw [readQuoted, if_pos rfl, if_neg hd]

theorem readQuoted_doubleQuotes (cs : List Char) {rest : List Char} (h : rest.head? ≠ some '"') :
    readQuoted (doubleQuotes cs ++ '"' :: rest) = some (cs, rest) := by
  induction cs with
  | nil => exact readQuoted_one h
  | cons c cs ih =>
    rw [doubleQuotes]
    by_cases hc : c = '"'
    · rw [if_pos hc, hc]
      show readQuoted ('"' :: '"' :: (doubleQuotes cs ++ '"' :: rest)) = _
      rw [readQuoted_two, ih]
      rfl
    · rw [if_neg hc]
      show readQuoted (c :: (doubleQuotes cs ++ '"' :: rest)) = _
      rw [readQuoted_cons hc, ih]
      rfl

/-- A written name is read back, and nothing of what follows it is taken. -/
theorem readName?_quotedName (name : String) (rest : List Char) (h : rest.head? ≠ some '"') :
    readName? ((quotedName name).toList ++ rest) = some (name.toList, rest) := by
  have hshape : (quotedName name).toList ++ rest =
      '"' :: (doubleQuotes name.toList ++ '"' :: rest) := by
    simp [quotedName, quotedChars]
  rw [hshape, readName?, if_pos rfl, readQuoted_doubleQuotes _ h]

theorem quotedName_inj {s t : String} : quotedName s = quotedName t ↔ s = t := by
  constructor
  · intro h
    have hs := readName?_quotedName s [] (by simp)
    rw [h, readName?_quotedName t [] (by simp)] at hs
    obtain ⟨hchars, -⟩ := Prod.mk.inj (Option.some.inj hs)
    exact (String.toList_inj.1 hchars).symm
  · rintro rfl
    rfl

/-! ## Bare names -/

/-- Reads a bare name: a word that is not reserved, in small letters. -/
def readBare? (cs : List Char) : Option (List Char × List Char) :=
  match (cs.takeWhile isWordChar).map Char.toLower with
  | [] => none
  | c :: word =>
    if c.isDigit || c == '$' || reservedWords.contains (String.ofList (c :: word)) then none
    else some (c :: word, cs.dropWhile isWordChar)

/-- Reads an identifier: the name, and the text after it. -/
def readIdentifier? (cs : List Char) : Option (List Char × List Char) :=
  readName? cs <|> readBare? cs

/-- The text does not go on with an identifier. -/
def EndsIdentifier (rest : List Char) : Prop :=
  ∀ c ∈ rest.head?, isWordChar c = false ∧ c ≠ '"'

/-- The name does not end in a line break. -/
def EndsInText (cs : List Char) : Prop := cs.getLast? ≠ some '\n'

/-- A name that was given ends in a digit. -/
theorem endsInText_name (g : Naming) (stem : List Char) : EndsInText (g.name stem) := by
  obtain ⟨front, b, n, hb, hb', hname⟩ := g.exists_name_eq stem
  have hdigits : '\n' ∉ '_' :: Nat.toDigits b n := by
    simp [notMem_toDigits (c := '\n') (by decide) hb hb']
  rw [EndsInText, hname, List.getLast?_append_of_ne_nil _ (List.cons_ne_nil _ _)]
  exact fun hlast => hdigits (List.mem_of_getLast? hlast)

theorem exists_of_isBareName {name : String} (h : isBareName name = true)
    (hend : EndsInText name.toList) :
    ∃ c word, name.toList = c :: word ∧ (c.isDigit || c == '$') = false ∧
      (∀ d ∈ c :: word, isBareChar d = true) ∧ reservedWords.contains name = false := by
  have hwhole : Text.dropFinalNewline name.toList = name.toList := if_neg hend
  unfold isBareName at h
  rw [hwhole] at h
  split at h
  · contradiction
  · next c word hname =>
    simp only [Bool.and_eq_true, Bool.not_eq_true', List.all_eq_true] at h
    exact ⟨c, word, hname, h.1.1, h.1.2, h.2⟩

theorem readBare?_of_isBareName {name : String} (h : isBareName name = true)
    (hend : EndsInText name.toList) {rest : List Char} (hrest : EndsIdentifier rest) :
    readBare? (name.toList ++ rest) = some (name.toList, rest) := by
  obtain ⟨c, word, hname, hfirst, hbare, hfree⟩ := exists_of_isBareName h hend
  have hword : ∀ d ∈ c :: word, isWordChar d = true := fun d hd =>
    isWordChar_of_isBareChar (hbare d hd)
  have hstop : rest.takeWhile isWordChar = [] ∧ rest.dropWhile isWordChar = rest := by
    cases rest with
    | nil => exact ⟨rfl, rfl⟩
    | cons d rest => simp [(hrest d rfl).1]
  have hsmall : (c :: word).map Char.toLower = c :: word :=
    (List.map_congr_left fun d hd => toLower_of_isBareChar (hbare d hd)).trans (List.map_id' _)
  have htake : ((c :: word ++ rest).takeWhile isWordChar).map Char.toLower = c :: word := by
    rw [List.takeWhile_append_of_pos hword, hstop.1, List.append_nil, hsmall]
  have hdrop : (c :: word ++ rest).dropWhile isWordChar = rest := by
    rw [List.dropWhile_append_of_pos hword, hstop.2]
  have hkept : String.ofList (c :: word) = name := by rw [← hname, String.ofList_toList]
  rw [hname, readBare?, htake, hdrop]
  simp only [hkept, hfirst, hfree, Bool.or_false, Bool.false_eq_true, if_false]

/-- A written identifier is read back, and nothing of what follows it is taken. -/
theorem readIdentifier?_identifier {name : String} (hend : EndsInText name.toList)
    {rest : List Char} (hrest : EndsIdentifier rest) :
    readIdentifier? ((identifier name).toList ++ rest) = some (name.toList, rest) := by
  unfold identifier readIdentifier?
  split_ifs with hbare
  · obtain ⟨c, word, hname, -, hchars, -⟩ := exists_of_isBareName hbare hend
    have hc : c ≠ '"' := by
      rintro rfl
      exact absurd (hchars '"' List.mem_cons_self) (by decide)
    have hquote : readName? (name.toList ++ rest) = none := by
      rw [hname]
      exact if_neg hc
    rw [hquote, readBare?_of_isBareName hbare hend hrest]
    rfl
  · have hquote : rest.head? ≠ some '"' := fun h => (hrest '"' h).2 rfl
    rw [readName?_quotedName name rest hquote]
    rfl

/-! ## Tables -/

/-- Reads a table: its schema, if there is one, its name, and the text after it. -/
def readTable? (cs : List Char) : Option ((Option (List Char) × List Char) × List Char) :=
  match readIdentifier? cs with
  | none => none
  | some (name, rest) =>
    if rest.head? = some '.' then
      (readIdentifier? rest.tail).map fun r => ((some name, r.1), r.2)
    else some ((none, name), rest)

/-- The parts of a table's name: what stands before its last point, if anything, is the schema. -/
inductive TableParts : List Char → Option (List Char) → List Char → Prop
  | plain {table : List Char} (h : '.' ∉ table) : TableParts table none table
  | rootless {table : List Char} (h : '.' ∉ table) : TableParts ('.' :: table) none table
  | qualified {schema table : List Char} (hne : schema ≠ []) (h : '.' ∉ table) :
      TableParts (schema ++ '.' :: table) (some schema) table

section SplitLast

variable {mark : Char} {after : List Char}

theorem splitLast_of_notMem (h : mark ∉ after) : Text.splitLast mark after = (none, after) := by
  have hne : ∀ c ∈ after.reverse, (c != mark) = true := fun c hc =>
    bne_iff_ne.2 (ne_of_mem_of_not_mem (List.mem_reverse.1 hc) h)
  simp [Text.splitLast, List.takeWhile_eq_self_iff.2 hne, List.dropWhile_eq_nil_iff.2 hne]

theorem splitLast_append (before : List Char) (h : mark ∉ after) :
    Text.splitLast mark (before ++ mark :: after) = (some before, after) := by
  have hne : ∀ c ∈ after.reverse, (c != mark) = true := fun c hc =>
    bne_iff_ne.2 (ne_of_mem_of_not_mem (List.mem_reverse.1 hc) h)
  have hreverse : (before ++ mark :: after).reverse =
      after.reverse ++ mark :: before.reverse := by simp
  simp [Text.splitLast, hreverse, List.takeWhile_append_of_pos hne,
    List.dropWhile_append_of_pos hne]

end SplitLast

theorem exists_tableParts (cs : List Char) : ∃ schema table, TableParts cs schema table := by
  by_cases h : '.' ∈ cs
  · obtain ⟨after, before, hcs, hafter⟩ :=
      List.eq_append_cons_of_mem (List.mem_reverse.2 h)
    obtain rfl : cs = before.reverse ++ '.' :: after.reverse := by
      simpa using congrArg List.reverse hcs
    have hafter' : '.' ∉ after.reverse := by simpa using hafter
    by_cases hne : before.reverse = []
    · rw [hne]
      exact ⟨none, _, .rootless hafter'⟩
    · exact ⟨_, _, .qualified hne hafter'⟩
  · exact ⟨none, cs, .plain h⟩

/-- **Tables are read back.** -/
theorem readTable?_tableName {name : String} {schema : Option (List Char)} {table : List Char}
    (hparts : TableParts name.toList schema table)
    (hends : ∀ part ∈ table :: schema.toList, EndsInText part) {rest : List Char}
    (hrest : EndsIdentifier rest) (hpoint : rest.head? ≠ some '.') :
    readTable? ((tableName name).toList ++ rest) = some ((schema, table), rest) := by
  have htable : readIdentifier? ((identifier (String.ofList table)).toList ++ rest) =
      some (table, rest) := by
    have hend : EndsInText (String.ofList table).toList := by
      simpa using hends table List.mem_cons_self
    simpa using readIdentifier?_identifier hend hrest
  generalize hname : name.toList = cs at hparts
  cases hparts with
  | plain h =>
    rw [tableName, hname, splitLast_of_notMem h, readTable?, htable]
    exact if_neg hpoint
  | rootless h =>
    have hsplit := splitLast_append [] h
    rw [List.nil_append] at hsplit
    rw [tableName, hname, hsplit, readTable?, htable]
    exact if_neg hpoint
  | @qualified schema _ hne h =>
    obtain ⟨c, cs, rfl⟩ := List.exists_cons_of_ne_nil hne
    have hend : EndsInText (String.ofList (c :: cs)).toList := by
      simpa using hends (c :: cs) (by simp)
    have hstop : EndsIdentifier ('.' :: ((identifier (String.ofList table)).toList ++ rest)) := by
      intro d hd
      obtain rfl : '.' = d := by simpa using hd
      decide
    have hschema := readIdentifier?_identifier hend hstop
    rw [String.toList_ofList] at hschema
    have htext : (tableName name).toList ++ rest = (identifier (String.ofList (c :: cs))).toList ++
        '.' :: ((identifier (String.ofList table)).toList ++ rest) := by
      rw [tableName, hname, splitLast_append _ h]
      simp
    rw [htext, readTable?, hschema]
    simp [htable]

example : readTable? "sales.daily \nWHERE".toList =
    some ((some "sales".toList, "daily".toList), " \nWHERE".toList) := by
  decide

end MetricQuery.Sql
