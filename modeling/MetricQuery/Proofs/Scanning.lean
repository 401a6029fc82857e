import MetricQuery.Proofs.Sources

/-!
# What a condition shows

A scanner passes over a text and keeps track of open quotes and brackets. What the text shows
outside them decides how its keywords bind: an `OR` there binds more weakly than any `AND`.

**Theorem (`hasOr_intercalate`).** Closed texts with `AND` between them form a closed text, and it
has an `OR` outside of quotes and brackets exactly if one of them has.

Texts are put together at blanks and brackets only. There the scanner forgets all but what is open,
so what a whole text shows is what its parts show (`Shows.append`, `Shows.and`, `Shows.brackets`).
-/

namespace MetricQuery.Sql

/-! ## Scanning -/

/-- Where a scanner stands. -/
structure Place where
  /-- The quote that is open. -/
  quote : Option Char := none
  /-- How many brackets are open. -/
  depth : Nat := 0
  /-- The character before, if it is not quoted. -/
  last : Char := ' '
  deriving DecidableEq

/-- The two characters begin a comment. -/
def opensComment (a b : Char) : Bool := a == '-' && b == '-' || a == '/' && b == '*'

namespace Place

/-- Neither a quote nor a bracket is open. -/
def isOuter (p : Place) : Bool := p.quote.isNone && p.depth == 0

/-- The place after a character. There is none if it closes a bracket that is not open, or begins a
comment. -/
def next (p : Place) (c : Char) : Option Place :=
  match p.quote with
  | some q => some { p with quote := if c = q then none else some q }
  | none =>
    if opensComment p.last c then none
    else if c = '\'' ∨ c = '"' then some { p with quote := some c, last := ' ' }
    else if c = '(' then some { p with depth := p.depth + 1, last := c }
    else if c = ')' then
      if p.depth = 0 then none else some { p with depth := p.depth - 1, last := c }
    else some { p with last := c }

end Place

/-- What a text shows outside quotes and brackets, with a blank for all else, and the place after
it. -/
def scan (p : Place) : List Char → Option (List Char × Place)
  | [] => some ([], p)
  | c :: cs =>
    (p.next c).bind fun q =>
      (scan q cs).map fun r => ((if p.isOuter then c else ' ') :: r.1, r.2)

/-- A text closes the quotes and brackets that it opens, and no others, and holds no comment. -/
def IsClosed (cs : List Char) : Prop := (scan {} cs).any (fun r => r.2.isOuter) = true

instance : DecidablePred IsClosed := fun _ => inferInstanceAs (Decidable (_ = true))

/-- A closed text shows this. -/
def Shows (cs shown : List Char) : Prop := ∃ x, scan {} cs = some (shown, { last := x })

theorem IsClosed.exists_shows {cs : List Char} (h : IsClosed cs) : ∃ shown, Shows cs shown := by
  unfold IsClosed at h
  cases hscan : scan {} cs with
  | none => simp [hscan] at h
  | some r =>
    obtain ⟨shown, quote, depth, x⟩ := r
    obtain ⟨rfl, rfl⟩ : quote = none ∧ depth = 0 := by
      simpa [hscan, Place.isOuter] using h
    exact ⟨shown, x, hscan⟩

theorem Shows.isClosed {cs shown : List Char} (h : Shows cs shown) : IsClosed cs := by
  obtain ⟨x, hscan⟩ := h
  simp [IsClosed, hscan, Place.isOuter]

/-! ## Texts put together -/

theorem scan_append (p : Place) (a b : List Char) :
    scan p (a ++ b) = (scan p a).bind fun r =>
      (scan r.2 b).map fun t => (r.1 ++ t.1, t.2) := by
  induction a generalizing p with
  | nil => simp [scan]
  | cons c a ih =>
    simp only [List.cons_append, scan, ih]
    cases p.next c with
    | none => rfl
    | some q => cases hscan : scan q a <;> simp [hscan, Function.comp_def]

/-- The character before matters only if it begins a comment. -/
theorem exists_scan_of_last {x : Char} {cs : List Char}
    (h : ∀ c ∈ cs.head?, opensComment x c = false) {depth : Nat} {shown : List Char} {q : Place}
    (hscan : scan { depth } cs = some (shown, q)) :
    ∃ y, scan { depth, last := x } cs = some (shown, { q with last := y }) := by
  cases cs with
  | nil =>
    obtain ⟨rfl, rfl⟩ := by simpa [scan] using hscan
    exact ⟨x, rfl⟩
  | cons c cs =>
    have hx : opensComment x c = false := h c rfl
    have hblank : opensComment ' ' c = false := by simp [opensComment]
    have hnext : Place.next { depth, last := x } c = Place.next { depth } c := by
      simp [Place.next, hx, hblank]
    refine ⟨q.last, ?_⟩
    simp only [scan, hnext] at hscan ⊢
    exact hscan

theorem Shows.append {a b s t : List Char} {c : Char} (hc : ∀ x, opensComment x c = false)
    (ha : Shows a s) (hb : Shows (c :: b) t) : Shows (a ++ c :: b) (s ++ t) := by
  obtain ⟨x, ha⟩ := ha
  obtain ⟨y, hb⟩ := hb
  obtain ⟨z, hz⟩ := exists_scan_of_last (x := x) (by simpa using hc x) hb
  exact ⟨z, by rw [scan_append, ha]; simp [hz]⟩

theorem opensComment_blank (x : Char) : opensComment x ' ' = false := by simp [opensComment]

theorem opensComment_bracket (x : Char) : opensComment x '(' = false := by simp [opensComment]

theorem Shows.and {a b s t : List Char} (ha : Shows a s) (hb : Shows b t) :
    Shows (a ++ (" AND ".toList ++ b)) (s ++ (" AND ".toList ++ t)) := by
  have hand : Shows (" AND ".toList ++ b) (" AND ".toList ++ t) := by
    obtain ⟨x, hb⟩ := hb
    have hkeyword : scan {} " AND ".toList = some (" AND ".toList, {}) := by decide
    exact ⟨x, by rw [scan_append, hkeyword]; simp [hb]⟩
  exact ha.append opensComment_blank hand

/-! ## Texts in brackets -/

theorem Place.next_deeper {p q : Place} {c : Char} (h : p.next c = some q) :
    Place.next { p with depth := p.depth + 1 } c = some { q with depth := q.depth + 1 } := by
  obtain ⟨quote, depth, last⟩ := p
  cases quote with
  | some mark =>
    obtain rfl := by simpa [next] using h
    rfl
  | none =>
    simp only [next] at h ⊢
    split_ifs at h with hcomment hquote hopen hclose houter
    · obtain rfl := by simpa using h
      simp [hcomment, hquote]
    · obtain rfl := by simpa using h
      simp [hopen, opensComment_bracket]
    · obtain rfl := by simpa using h
      have hdepth : depth = depth - 1 + 1 := by omega
      simpa [hclose, opensComment] using hdepth
    · obtain rfl := by simpa using h
      simp [hcomment, hquote, hopen, hclose]

/-- A text with one more bracket around it shows nothing. -/
theorem scan_deeper {p q : Place} {cs shown : List Char} (h : scan p cs = some (shown, q)) :
    scan { p with depth := p.depth + 1 } cs =
      some (List.replicate cs.length ' ', { q with depth := q.depth + 1 }) := by
  induction cs generalizing p shown with
  | nil =>
    obtain ⟨-, rfl⟩ := by simpa [scan] using h
    rfl
  | cons c cs ih =>
    cases hnext : p.next c with
    | none => simp [scan, hnext] at h
    | some p' =>
      cases hscan : scan p' cs with
      | none => simp [scan, hnext, hscan] at h
      | some r =>
        obtain ⟨-, rfl⟩ := by simpa [scan, hnext, hscan] using h
        have hinner := ih hscan
        simp [scan, Place.next_deeper hnext, hinner, Place.isOuter, List.replicate_succ]

theorem Shows.brackets {a s : List Char} (ha : Shows a s) :
    Shows ('(' :: (a ++ [')'])) ('(' :: List.replicate (a.length + 1) ' ') := by
  obtain ⟨x, ha⟩ := ha
  have hopen : ∀ c ∈ a.head?, opensComment '(' c = false := fun c _ => by simp [opensComment]
  obtain ⟨y, hy⟩ := exists_scan_of_last hopen (scan_deeper ha)
  refine ⟨')', ?_⟩
  have hfirst : Place.next {} '(' = some { depth := 1, last := '(' } := by decide
  have hfinal : Place.next { depth := 1, last := y } ')' = some { last := ')' } := by
    simp [Place.next, opensComment]
  simp only [Nat.zero_add] at hy
  rw [scan, hfirst]
  simp [scan_append, hy, scan, hfinal, Place.isOuter, List.replicate_succ']

/-! ## Plain texts -/

/-- Quotes, brackets and what comments begin with. -/
def specialChars : List Char := ['\'', '"', '(', ')', '-', '/', '*']

def isPlain (c : Char) : Bool := !specialChars.contains c

/-- A plain text shows itself. -/
theorem shows_plain {cs : List Char} (h : ∀ c ∈ cs, isPlain c = true) : Shows cs cs := by
  have hscan : ∀ x, ∃ y, scan { last := x } cs = some (cs, { last := y }) := by
    induction cs with
    | nil => exact fun x => ⟨x, rfl⟩
    | cons c cs ih =>
      intro x
      obtain ⟨hc, hcs⟩ := List.forall_mem_cons.1 h
      have hnext : Place.next { last := x } c = some { last := c } := by
        simp [isPlain, specialChars] at hc
        simp [Place.next, opensComment, hc]
      obtain ⟨y, hy⟩ := ih hcs c
      exact ⟨y, by simp [scan, hnext, hy, Place.isOuter]⟩
  exact hscan ' '

/-! ## Words -/

/-- A character of words: a letter, a digit, `_` or `$`. Every character beyond the first 128 counts
as a letter. -/
def isWordChar (c : Char) : Bool := c.isAlphanum || c == '_' || c == '$' || 128 ≤ c.toNat

def words (cs : List Char) : List (List Char) := cs.splitOnP fun c => !isWordChar c

/-- The word is `OR`, in letters of either case. -/
def isOr (w : List Char) : Bool := w.map Char.toLower == ['o', 'r']

def SpellsOr (cs : List Char) : Prop := ∃ w ∈ words cs, isOr w = true

instance : DecidablePred SpellsOr := fun cs => inferInstanceAs (Decidable (∃ w ∈ words cs, _))

/-- The keyword `OR` stands in a text outside of quotes and brackets. -/
def HasOr (cs : List Char) : Prop := SpellsOr (((scan {} cs).map Prod.fst).getD [])

instance : DecidablePred HasOr := fun _ => inferInstanceAs (Decidable (SpellsOr _))

theorem Shows.hasOr_iff {cs shown : List Char} (h : Shows cs shown) :
    HasOr cs ↔ SpellsOr shown := by
  obtain ⟨x, hscan⟩ := h
  simp [HasOr, hscan]

theorem words_append_blank (a b : List Char) : words (a ++ ' ' :: b) = words a ++ words b :=
  List.splitOnP_append_cons a b (by decide)

theorem spellsOr_append_blank (a b : List Char) :
    SpellsOr (a ++ ' ' :: b) ↔ SpellsOr a ∨ SpellsOr b := by
  simp only [SpellsOr, words_append_blank, List.mem_append, or_and_right, exists_or]

theorem mem_of_mem_words {cs w : List Char} (hw : w ∈ words cs) {c : Char} (hc : c ∈ w) :
    c ∈ cs := by
  induction cs generalizing w with
  | nil =>
    obtain rfl : w = [] := by simpa [words] using hw
    simp at hc
  | cons d cs ih =>
    rw [words, List.splitOnP_cons_eq_if_modifyHead] at hw
    split at hw
    · rcases List.mem_cons.1 hw with rfl | hw
      · simp at hc
      · exact List.mem_cons_of_mem d (ih hw hc)
    · obtain ⟨v, vs, hcs⟩ := List.exists_cons_of_ne_nil
        (List.splitOnP_ne_nil (fun c => !isWordChar c) cs)
      have ih' : ∀ u ∈ v :: vs, c ∈ u → c ∈ cs := fun u hu => ih (by rw [words, hcs]; exact hu)
      rw [hcs, List.modifyHead_cons] at hw
      rcases List.mem_cons.1 hw with rfl | hw
      · rcases List.mem_cons.1 hc with rfl | hc
        · exact List.mem_cons_self
        · exact List.mem_cons_of_mem d (ih' v List.mem_cons_self hc)
      · exact List.mem_cons_of_mem d (ih' w (List.mem_cons_of_mem v hw) hc)

/-- No letter begins an `OR`. -/
def Mute (cs : List Char) : Prop := ∀ c ∈ cs, c.toLower ≠ 'o'

theorem Mute.not_spellsOr {cs : List Char} (h : Mute cs) : ¬ SpellsOr cs := by
  rintro ⟨w, hw, hor⟩
  have hlower : w.map Char.toLower = ['o', 'r'] := by simpa [isOr] using hor
  cases w with
  | nil => simp at hlower
  | cons c w => exact h c (mem_of_mem_words hw List.mem_cons_self) (List.cons.inj hlower).1

theorem spellsOr_and (a b : List Char) :
    SpellsOr (a ++ (" AND ".toList ++ b)) ↔ SpellsOr a ∨ SpellsOr b := by
  have hshape : a ++ (" AND ".toList ++ b) = a ++ ' ' :: ("AND".toList ++ ' ' :: b) := by simp
  have hkeyword : ¬ SpellsOr "AND".toList := by decide
  rw [hshape, spellsOr_append_blank, spellsOr_append_blank, or_iff_right hkeyword]

/-- Closed texts with `AND` between them: an `OR` of theirs is one of the whole. -/
theorem hasOr_intercalate {texts : List (List Char)} (h : ∀ t ∈ texts, IsClosed t) :
    IsClosed (" AND ".toList.intercalate texts) ∧
      (HasOr (" AND ".toList.intercalate texts) ↔ ∃ t ∈ texts, HasOr t) := by
  induction texts with
  | nil =>
    have hnil : IsClosed [] ∧ ¬ HasOr [] := by decide
    simpa using hnil
  | cons t texts ih =>
    obtain ⟨ht, htexts⟩ := List.forall_mem_cons.1 h
    cases texts with
    | nil => simpa using ht
    | cons u us =>
      obtain ⟨hclosed, hor⟩ := ih htexts
      obtain ⟨s, hs⟩ := ht.exists_shows
      obtain ⟨s', hs'⟩ := hclosed.exists_shows
      have hand := hs.and hs'
      rw [List.intercalate_cons_cons, List.append_assoc]
      refine ⟨hand.isClosed, ?_⟩
      rw [hand.hasOr_iff, spellsOr_and, ← hs.hasOr_iff, ← hs'.hasOr_iff, hor]
      simp

/-! ## Names -/

theorem mute_blank : ' '.toLower ≠ 'o' := by decide

theorem mute_quote : '"'.toLower ≠ 'o' := by decide

theorem next_quote : Place.next {} '"' = some { quote := some '"' } := by decide

theorem next_quoted_quote : Place.next { quote := some '"' } '"' = some {} := by decide

/-- Between quotes a name shows no letter. -/
theorem exists_scan_doubleQuotes (cs : List Char) :
    ∃ shown, scan { quote := some '"' } (doubleQuotes cs) =
      some (shown, { quote := some '"' }) ∧ Mute shown := by
  induction cs with
  | nil => exact ⟨[], rfl, by simp [Mute]⟩
  | cons c cs ih =>
    obtain ⟨shown, hscan, hmute⟩ := ih
    unfold doubleQuotes
    split_ifs with hc
    · -- The first of the two quotes closes the name, the second opens it again.
      refine ⟨' ' :: '"' :: shown, ?_, ?_⟩
      · simp [scan, next_quoted_quote, next_quote, hscan, Place.isOuter]
      · exact List.forall_mem_cons.2 ⟨mute_blank, List.forall_mem_cons.2 ⟨mute_quote, hmute⟩⟩
    · have hinside : Place.next { quote := some '"' } c = some { quote := some '"' } := by
        simp [Place.next, hc]
      refine ⟨' ' :: shown, ?_, List.forall_mem_cons.2 ⟨mute_blank, hmute⟩⟩
      simp [scan, hinside, hscan, Place.isOuter]

theorem exists_shows_quotedName (name : String) :
    ∃ shown, Shows (quotedName name).toList shown ∧ Mute shown := by
  obtain ⟨shown, hscan, hmute⟩ := exists_scan_doubleQuotes name.toList
  refine ⟨'"' :: (shown ++ [' ']), ⟨' ', ?_⟩, List.forall_mem_cons.2 ⟨mute_quote, ?_⟩⟩
  · simp [quotedName, quotedChars, scan, next_quote, scan_append, hscan, next_quoted_quote,
      Place.isOuter]
  · exact List.forall_mem_append.2 ⟨hmute, List.forall_mem_singleton.2 mute_blank⟩

theorem isPlain_of_isBareChar {c : Char} (h : isBareChar c = true) : isPlain c = true := by
  have hnone : specialChars.any isBareChar = false := by decide
  by_contra hspecial
  have hmem : c ∈ specialChars := by
    simpa only [isPlain, Bool.not_eq_true, Bool.not_eq_false', List.contains_iff_mem] using hspecial
  exact List.any_eq_false.1 hnone c hmem h

theorem isWordChar_of_isBareChar {c : Char} (h : isBareChar c = true) : isWordChar c = true := by
  simp only [isBareChar, Bool.or_eq_true, beq_iff_eq] at h
  rcases h with ((((h | h) | rfl) | rfl) | rfl) | rfl
  · show (c.isUpper || c.isLower || c.isDigit || c == '_' || c == '$' || 128 ≤ c.toNat) = true
    simp [h]
  · show (c.isUpper || c.isLower || c.isDigit || c == '_' || c == '$' || 128 ≤ c.toNat) = true
    simp [h]
  all_goals decide

theorem toLower_of_isBareChar {c : Char} (h : isBareChar c = true) : c.toLower = c := by
  unfold Char.toLower
  refine dif_neg ?_
  intro hupper
  simp only [isBareChar, Bool.or_eq_true, beq_iff_eq] at h
  rcases h with ((((h | h) | rfl) | rfl) | rfl) | rfl
  · have hlower : 'a'.val ≤ c.val := by
      apply decide_eq_true_iff.1
      exact (Bool.and_eq_true_iff.1 h).1
    simp only [UInt32.le_iff_toNat_le] at hlower hupper
    have hgap : 'Z'.val.toNat < 'a'.val.toNat := by decide
    omega
  · have hdigit : c.val ≤ '9'.val := by
      apply decide_eq_true_iff.1
      exact (Bool.and_eq_true_iff.1 h).2
    simp only [ge_iff_le, UInt32.le_iff_toNat_le] at hdigit hupper
    have hgap : '9'.val.toNat < 'A'.val.toNat := by decide
    omega
  all_goals exact absurd hupper (by decide)

/-- A bare name is made up of word characters, but for a final line break. -/
theorem exists_body_of_isBareName {name : String} (h : isBareName name = true) :
    ∃ body, (∀ c ∈ body, isBareChar c = true) ∧
      (name.toList = body ∨ name.toList = body ++ ['\n']) := by
  have hbody : ∀ c ∈ Text.dropFinalNewline name.toList, isBareChar c = true := by
    unfold isBareName at h
    split at h
    · simp at h
    · next c rest hname =>
      simp only [Bool.and_eq_true, List.all_eq_true] at h
      rw [hname]
      exact h.1.2
  refine ⟨_, hbody, ?_⟩
  unfold Text.dropFinalNewline
  split_ifs with hlast
  · exact .inr (List.dropLast_append_getLast? _ hlast).symm
  · exact .inl rfl

theorem spellsOr_bare {body : List Char} (h : ∀ c ∈ body, isBareChar c = true) :
    SpellsOr body ↔ body = ['o', 'r'] := by
  have hwords : words body = [body] := List.splitOnP_eq_singleton fun c hc => by
    simp [isWordChar_of_isBareChar (h c hc)]
  have hlower : body.map Char.toLower = body :=
    (List.map_congr_left fun c hc => toLower_of_isBareChar (h c hc)).trans (List.map_id' body)
  simp [SpellsOr, hwords, isOr, hlower]

/-- Only one name is an `OR` as it is written. -/
theorem closed_identifier (name : String) :
    IsClosed (identifier name).toList ∧ (HasOr (identifier name).toList ↔ name = "or\n") := by
  unfold identifier
  split
  · next hbare =>
    obtain ⟨body, hbody, hname⟩ := exists_body_of_isBareName hbare
    have hplain : ∀ c ∈ name.toList, isPlain c = true := by
      intro c hc
      rcases hname with hname | hname <;> rw [hname] at hc
      · exact isPlain_of_isBareChar (hbody c hc)
      · rcases List.mem_append.1 hc with hc | hc
        · exact isPlain_of_isBareChar (hbody c hc)
        · obtain rfl := List.mem_singleton.1 hc
          decide
    have hshows := shows_plain hplain
    refine ⟨hshows.isClosed, ?_⟩
    rw [hshows.hasOr_iff, ← String.toList_inj]
    rcases hname with hname | hname
    · -- `or` itself is reserved, so it is not bare.
      rw [hname, spellsOr_bare hbody]
      constructor
      · intro hor
        obtain rfl : name = "or" := String.toList_inj.1 (hname.trans hor)
        exact absurd hbare (by decide)
      · intro hor
        exact absurd (hbody '\n' (by simp [hor])) (by decide)
    · have hwords : words (body ++ ['\n']) = words body ++ [[]] :=
        List.splitOnP_append_cons body [] (by decide)
      have hor : SpellsOr (body ++ ['\n']) ↔ SpellsOr body := by
        simp [SpellsOr, hwords, isOr]
      rw [hname, hor, spellsOr_bare hbody]
      exact (List.append_left_inj ['\n']).symm
  · next hquoted =>
    obtain ⟨shown, hshows, hmute⟩ := exists_shows_quotedName name
    have hne : name ≠ "or\n" := by
      rintro rfl
      exact hquoted (by decide)
    exact ⟨hshows.isClosed, by simp [hshows.hasOr_iff, hmute.not_spellsOr, hne]⟩

/-! ## Predicates -/

/-- A plain character that begins no `OR`. -/
def isDull (c : Char) : Bool := isPlain c && c.toLower != 'o'

/-- A text that may follow the subject of a predicate and a blank. -/
def Trails (tail : List Char) : Prop := ∃ shown, Shows (' ' :: tail) (' ' :: shown) ∧ Mute shown

theorem shows_dull {cs : List Char} (h : cs.all isDull = true) : Shows cs cs :=
  shows_plain fun c hc => (Bool.and_eq_true_iff.1 (List.all_eq_true.1 h c hc)).1

theorem mute_dull {cs : List Char} (h : cs.all isDull = true) : Mute cs := by
  intro c hc
  simpa using (Bool.and_eq_true_iff.1 (List.all_eq_true.1 h c hc)).2

theorem trails_dull {tail : List Char} (h : tail.all isDull = true) : Trails tail := by
  have hblank : isDull ' ' = true := by decide
  exact ⟨tail, shows_dull (by rw [List.all_cons, hblank, h]; rfl), mute_dull h⟩

/-- A list of choices may follow. -/
theorem trails_brackets {inner : List Char} (h : inner.all isDull = true) :
    Trails ("IN ".toList ++ '(' :: (inner ++ [')'])) := by
  have hin : Shows " IN ".toList " IN ".toList := shows_dull (by decide)
  have hkeyword : "IN (".toList.all (·.toLower != 'o') = true := by decide
  have hmute : Mute "IN (".toList := by
    intro c hc
    simpa using List.all_eq_true.1 hkeyword c hc
  refine ⟨"IN (".toList ++ List.replicate (inner.length + 1) ' ', ?_, ?_⟩
  · simpa using hin.append opensComment_bracket (shows_dull h).brackets
  · exact List.forall_mem_append.2 ⟨hmute, fun c hc => List.eq_of_mem_replicate hc ▸ mute_blank⟩

theorem Trails.closed {a tail : List Char} (h : Trails tail) (ha : IsClosed a) :
    IsClosed (a ++ ' ' :: tail) ∧ (HasOr (a ++ ' ' :: tail) ↔ HasOr a) := by
  obtain ⟨shown, hshows, hmute⟩ := h
  obtain ⟨s, hs⟩ := ha.exists_shows
  have hwhole := hs.append opensComment_blank hshows
  refine ⟨hwhole.isClosed, ?_⟩
  rw [hwhole.hasOr_iff, hs.hasOr_iff, spellsOr_append_blank, or_iff_left hmute.not_spellsOr]

theorem isDull_of_isDigit {c : Char} (h : c.isDigit = true) : isDull c = true := by
  have hbare : isBareChar c = true := by simp [isBareChar, h]
  have hletter : c ≠ 'o' := by
    rintro rfl
    exact absurd h (by decide)
  simp [isDull, isPlain_of_isBareChar hbare, toLower_of_isBareChar hbare, hletter]

theorem all_dull_placeholder (before : Nat) : (placeholder before).all isDull = true := by
  have hmark : isDull '$' = true := by decide
  have hnumber : (toString (before + 1)).toList.all isDull = true :=
    List.all_eq_true.2 fun c hc => isDull_of_isDigit (isDigit_of_mem_number hc)
  rw [placeholder, List.all_cons, hmark, hnumber]
  rfl

theorem all_dull_choices (choices : List Json) (before : Nat) :
    (Piece.numbered before (Piece.join ", " (choices.map fun v => [.hole plainStem v]))).all
      isDull = true := by
  have hcomma : ", ".toList.all isDull = true := by decide
  induction choices generalizing before with
  | nil => rfl
  | cons v choices ih =>
    cases choices with
    | nil => simp [Piece.join, Piece.numbered, all_dull_placeholder]
    | cons w choices =>
      have hjoin : Piece.join ", " ((v :: w :: choices).map fun v => [.hole plainStem v]) =
          .hole plainStem v :: .text ", " ::
            Piece.join ", " ((w :: choices).map fun v => [.hole plainStem v]) := rfl
      rw [hjoin, Piece.numbered, Piece.numbered, List.all_append, List.all_append,
        all_dull_placeholder, hcomma, ih]
      rfl

/-- After its subject a predicate shows no letter of an `OR`. -/
theorem exists_trails {p : Predicate} {s : Subject} (h : p.subject? = some s) (before : Nat) :
    ∃ tail, Piece.numbered before p.pieces = s.text.toList ++ ' ' :: tail ∧ Trails tail := by
  have hnumber := all_dull_placeholder
  cases p with
  | fragment f => simp [Predicate.subject?] at h
  | compare s c v =>
    obtain rfl := Option.some.inj h
    obtain ⟨symbol, hsymbol, hdull⟩ : ∃ symbol, c.symbol.toList = ' ' :: symbol ∧
        symbol.all isDull = true := by
      cases c <;> exact ⟨_, rfl, by decide⟩
    refine ⟨symbol ++ placeholder before, ?_, trails_dull ?_⟩
    · simp [Predicate.pieces, Piece.numbered, hsymbol]
    · rw [List.all_append, hdull, hnumber]; rfl
  | isNull s =>
    obtain rfl := Option.some.inj h
    exact ⟨"IS NULL".toList, by simp [Predicate.pieces, Piece.numbered], trails_dull (by decide)⟩
  | isTruth s b =>
    obtain rfl := Option.some.inj h
    refine ⟨(if b then "= true" else "= false").toList, ?_, trails_dull ?_⟩
    · cases b <;> simp [Predicate.pieces, Piece.numbered]
    · cases b <;> decide
  | between s low high =>
    obtain rfl := Option.some.inj h
    refine ⟨"BETWEEN ".toList ++ (placeholder before ++ (" AND ".toList ++
      placeholder (before + 1))), by simp [Predicate.pieces, Piece.numbered], trails_dull ?_⟩
    have hbetween : "BETWEEN ".toList.all isDull = true ∧ " AND ".toList.all isDull = true := by
      decide
    simp only [List.all_append, hbetween, hnumber, Bool.and_self]
  | oneOf s choices =>
    obtain rfl := Option.some.inj h
    refine ⟨"IN ".toList ++ '(' :: (Piece.numbered before
      (Piece.join ", " (choices.map fun v => [.hole plainStem v])) ++ [')']), ?_,
      trails_brackets (all_dull_choices choices before)⟩
    simp [Predicate.pieces, Piece.numbered, Piece.numbered_append]
  | like s pattern =>
    obtain rfl := Option.some.inj h
    have hkeyword : "ILIKE ".toList.all isDull = true := by decide
    refine ⟨"ILIKE ".toList ++ placeholder before,
      by simp [Predicate.pieces, Piece.numbered], trails_dull ?_⟩
    rw [List.all_append, hkeyword, hnumber]; rfl

/-- A predicate has an `OR` exactly if its subject has one. -/
theorem closed_of_subject? {p : Predicate} {s : Subject} (h : p.subject? = some s)
    (hs : IsClosed s.text.toList) (before : Nat) :
    IsClosed (Piece.numbered before p.pieces) ∧
      (HasOr (Piece.numbered before p.pieces) ↔ HasOr s.text.toList) := by
  obtain ⟨tail, htext, htail⟩ := exists_trails h before
  rw [htext]
  exact htail.closed hs

/-- A condition in brackets has no `OR` outside of them. -/
theorem closed_fragment {f : Fragment} (h : IsClosed f.text.toList) (before : Nat) :
    IsClosed (Piece.numbered before (Predicate.fragment f).pieces) ∧
      ¬ HasOr (Piece.numbered before (Predicate.fragment f).pieces) := by
  obtain ⟨shown, hshows⟩ := h.exists_shows
  have htext : Piece.numbered before (Predicate.fragment f).pieces =
      '(' :: (f.text.toList ++ [')']) := by
    simp [Predicate.pieces, Piece.numbered]
  have hbracket : '('.toLower ≠ 'o' := by decide
  rw [htext, hshows.brackets.hasOr_iff]
  refine ⟨hshows.brackets.isClosed, Mute.not_spellsOr (List.forall_mem_cons.2 ⟨hbracket, ?_⟩)⟩
  exact fun c hc => List.eq_of_mem_replicate hc ▸ mute_blank

end MetricQuery.Sql
