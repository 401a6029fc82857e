import MetricQuery.Sql.Pattern
import Mathlib.Data.List.Infix

/-!
# What patterns match

**Theorem (`escaped_and_injective`).** The pattern made of a text is well formed, and it matches
exactly the texts in which that text occurs, whatever cases of letters are held to be the same. No
character of the text acts as a wildcard or as an escape, wherever it stands.

A pattern is read as a list of symbols first, and matching is a relation between symbols and texts.
An escaped text reads as its own characters and nothing else (`readPattern_escapeChars`), so between
two wildcards it stands for itself. Read that way no text is lost, so escaping is injective.
-/

namespace MetricQuery.Sql

/-! ## Patterns -/

/-- What a pattern asks for. -/
inductive Symbol where
  | anyText
  | anyChar
  | char (c : Char)
  deriving DecidableEq

/-- Reads a pattern. A backslash takes the next character as it is, so it cannot stand last. -/
def readPattern : List Char → Option (List Symbol)
  | [] => some []
  | '%' :: cs => (readPattern cs).map (.anyText :: ·)
  | '_' :: cs => (readPattern cs).map (.anyChar :: ·)
  | ['\\'] => none
  | '\\' :: c :: cs => (readPattern cs).map (.char c :: ·)
  | c :: cs => (readPattern cs).map (.char c :: ·)

/-- Symbols match a text. Characters are the same if `fold` makes them the same. -/
inductive Matches (fold : Char → Char) : List Symbol → List Char → Prop
  | nil : Matches fold [] []
  | anyText {p : List Symbol} {t : List Char} (u : List Char) (h : Matches fold p t) :
      Matches fold (.anyText :: p) (u ++ t)
  | anyChar {p : List Symbol} {t : List Char} (c : Char) (h : Matches fold p t) :
      Matches fold (.anyChar :: p) (c :: t)
  | char {p : List Symbol} {t : List Char} {c d : Char} (hfold : fold c = fold d)
      (h : Matches fold p t) : Matches fold (.char c :: p) (d :: t)

/-- The pattern is well formed and matches the text. -/
def Like (fold : Char → Char) (pattern text : String) : Prop :=
  ∃ p, readPattern pattern.toList = some p ∧ Matches fold p text.toList

/-- A text without the backslashes that escape the character after them. -/
def unescapeChars : List Char → List Char
  | [] => []
  | '\\' :: c :: cs => c :: unescapeChars cs
  | c :: cs => c :: unescapeChars cs

/-! ## Matching -/

section Matches

variable {fold : Char → Char}

theorem matches_anyText_iff {p : List Symbol} {t : List Char} :
    Matches fold (.anyText :: p) t ↔ ∃ u v, t = u ++ v ∧ Matches fold p v := by
  constructor
  · intro h
    cases h with
    | anyText u h => exact ⟨u, _, rfl, h⟩
  · rintro ⟨u, v, rfl, h⟩
    exact .anyText u h

theorem matches_nil_iff {t : List Char} : Matches fold [] t ↔ t = [] := by
  constructor
  · intro h
    cases h
    rfl
  · rintro rfl
    exact .nil

/-- Characters match a text of as many characters that are the same. -/
theorem matches_chars_iff {s : List Char} {p : List Symbol} {t : List Char} :
    Matches fold (s.map .char ++ p) t ↔
      ∃ u v, t = u ++ v ∧ u.map fold = s.map fold ∧ Matches fold p v := by
  induction s generalizing t with
  | nil => simp
  | cons c s ih =>
    constructor
    · intro h
      cases h with
      | @char _ t _ d hfold h =>
        obtain ⟨u, v, rfl, hu, hv⟩ := ih.1 h
        exact ⟨d :: u, v, rfl, by simp [hfold, hu], hv⟩
    · rintro ⟨u, v, rfl, hu, hv⟩
      obtain ⟨d, u, rfl, hd, hu⟩ := List.map_eq_cons_iff.1 hu
      exact .char hd.symm (ih.2 ⟨u, v, rfl, hu, hv⟩)

/-- Between two wildcards, characters match the texts that they occur in. -/
theorem matches_between_iff {s t : List Char} :
    Matches fold (.anyText :: (s.map .char ++ [.anyText])) t ↔ s.map fold <:+: t.map fold := by
  simp only [matches_anyText_iff, matches_chars_iff, matches_nil_iff]
  constructor
  · rintro ⟨before, _, rfl, inside, _, rfl, hinside, after, _, rfl, rfl⟩
    exact ⟨before.map fold, after.map fold, by simp [hinside]⟩
  · rintro ⟨before, after, h⟩
    obtain ⟨t, after, rfl, ht, -⟩ := List.map_eq_append_iff.1 h.symm
    obtain ⟨before, inside, rfl, -, hinside⟩ := List.map_eq_append_iff.1 ht
    exact ⟨before, inside ++ after, by simp, inside, after, rfl, hinside, after, [], by simp, rfl⟩

end Matches

/-! ## Escaped texts -/

theorem escapeChars_special {c : Char} (h : c = '\\' ∨ c = '%' ∨ c = '_') (s : List Char) :
    escapeChars (c :: s) = '\\' :: c :: escapeChars s := by
  rw [escapeChars, if_pos h]

theorem escapeChars_plain {c : Char} (h : ¬ (c = '\\' ∨ c = '%' ∨ c = '_')) (s : List Char) :
    escapeChars (c :: s) = c :: escapeChars s := by
  rw [escapeChars, if_neg h]

theorem readPattern_plain {c : Char} (h : ¬ (c = '\\' ∨ c = '%' ∨ c = '_')) (cs : List Char) :
    readPattern (c :: cs) = (readPattern cs).map (.char c :: ·) := by
  obtain ⟨hbackslash, hpercent, hunderscore⟩ : c ≠ '\\' ∧ c ≠ '%' ∧ c ≠ '_' := by simpa using h
  simp [readPattern, hbackslash]

/-- An escaped text reads as its own characters, whatever follows it. -/
theorem readPattern_escapeChars (s rest : List Char) :
    readPattern (escapeChars s ++ rest) = (readPattern rest).map (s.map .char ++ ·) := by
  induction s with
  | nil => simp [escapeChars]
  | cons c s ih =>
    by_cases h : c = '\\' ∨ c = '%' ∨ c = '_'
    · simp [escapeChars_special h, readPattern, ih, Function.comp_def]
    · simp [escapeChars_plain h, readPattern_plain h, ih, Function.comp_def]

theorem unescapeChars_escapeChars (s : List Char) : unescapeChars (escapeChars s) = s := by
  induction s with
  | nil => rfl
  | cons c s ih =>
    by_cases h : c = '\\' ∨ c = '%' ∨ c = '_'
    · rw [escapeChars_special h, unescapeChars, ih]
    · have hbackslash : c ≠ '\\' := fun hc => h (.inl hc)
      simp [escapeChars_plain h, unescapeChars, hbackslash, ih]

/-- A text with `w` in the place of every `c`. -/
def replaceChar (c : Char) (w : List Char) (s : List Char) : List Char :=
  s.flatMap fun d => if d = c then w else [d]

/-- Escaping replaces one character after the other. Backslashes come first, so that the ones put
in later are not escaped. -/
theorem escapeChars_eq_replaceChar (s : List Char) :
    escapeChars s = replaceChar '_' ['\\', '_'] (replaceChar '%' ['\\', '%']
      (replaceChar '\\' ['\\', '\\'] s)) := by
  induction s with
  | nil => rfl
  | cons c s ih =>
    by_cases hbackslash : c = '\\'
    · simp [escapeChars, replaceChar, hbackslash, ih]
    · by_cases hpercent : c = '%'
      · simp [escapeChars, replaceChar, hpercent, ih]
      · by_cases hunderscore : c = '_'
        · simp [escapeChars, replaceChar, hunderscore, ih]
        · simp [escapeChars, replaceChar, hbackslash, hpercent, hunderscore, ih]

/-! ## Patterns of texts -/

theorem toList_escapePattern (s : String) : (escapePattern s).toList = escapeChars s.toList := by
  simp [escapePattern]

theorem readPattern_containsPattern (s : String) :
    readPattern (containsPattern s).toList =
      some (.anyText :: (s.toList.map .char ++ [.anyText])) := by
  have hchars : (containsPattern s).toList = '%' :: (escapeChars s.toList ++ ['%']) := by
    simp [containsPattern, toList_escapePattern]
  rw [hchars, readPattern, readPattern_escapeChars]
  rfl

/-- In a pattern an escaped text stands for itself. -/
structure Escaped (s : String) : Prop where
  replaced : (escapePattern s).toList = replaceChar '_' ['\\', '_'] (replaceChar '%' ['\\', '%']
    (replaceChar '\\' ['\\', '\\'] s.toList))
  wellFormed : (readPattern (containsPattern s).toList).isSome = true
  /-- Between two wildcards it matches the texts that it occurs in. -/
  like_iff : ∀ (fold : Char → Char) (t : String),
    Like fold (containsPattern s) t ↔ s.toList.map fold <:+: t.toList.map fold
  unescaped : unescapeChars (escapePattern s).toList = s.toList

/-- **Escaping is exact.** A text that is escaped matches itself and nothing else, and no two texts
are the same when escaped. -/
theorem escaped_and_injective : (∀ s, Escaped s) ∧ Function.Injective escapePattern := by
  have hunescaped : ∀ s, unescapeChars (escapePattern s).toList = s.toList := by
    intro s
    rw [toList_escapePattern, unescapeChars_escapeChars]
  refine ⟨fun s => ?_, fun s t h => ?_⟩
  · exact {
      replaced := by rw [toList_escapePattern, escapeChars_eq_replaceChar]
      wellFormed := by rw [readPattern_containsPattern]; rfl
      like_iff := by
        intro fold t
        rw [← matches_between_iff, Like, readPattern_containsPattern]
        simp
      unescaped := hunescaped s }
  · have hlists : s.toList = t.toList := by rw [← hunescaped s, h, hunescaped t]
    exact String.toList_inj.1 hlists

/-- Only the wildcards put around a text are wildcards. -/
example : readPattern (containsPattern "5%\\").toList =
    some [.anyText, .char '5', .char '%', .char '\\', .anyText] := by
  decide

end MetricQuery.Sql
