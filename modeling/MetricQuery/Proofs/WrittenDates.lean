import MetricQuery.Query.Failure
import Mathlib.Algebra.Group.Nat.Defs
import Mathlib.Data.List.Induction

/-!
# Dates as they are written

**Theorem (`parse_eq_ok_iff`).** A text reads as a date exactly if it is that date written as
`YYYY-MM-DD`. So every date has one text, and every text that reads as a date is the one the date is
written as.

Digits and numbers of a fixed width go into each other (`digitsValue_fixedDigits`,
`fixedDigits_digitsValue`), and a text cut into its fields is those fields with hyphens between
(`cutFields_eq_some_iff`). The shape that is asked for first, in the digits of any script, asks for
less than that.

With that, a check of two bounds comes to one of three things (`Span.check_cases`), said without
reading any text.
-/

namespace MetricQuery

open Text

/-! ## Digits -/

namespace Text

theorem digitValue_digitChar {n : Nat} (h : n < 10) : digitValue (Nat.digitChar n) = n := by
  have hall : ∀ n < 10, digitValue (Nat.digitChar n) = n := by decide
  exact hall n h

theorem toNat_of_isDigit {c : Char} (h : c.isDigit = true) : 48 ≤ c.toNat ∧ c.toNat ≤ 57 := by
  simpa [Char.isDigit, UInt32.le_iff_toNat_le] using h

theorem digitChar_digitValue {c : Char} (h : c.isDigit = true) :
    Nat.digitChar (digitValue c) = c := by
  have hchar : ∀ n < 10, Nat.digitChar n = Char.ofNat (48 + n) := by decide
  have hrange := toNat_of_isDigit h
  have hzero : digitValue c = c.toNat - 48 := rfl
  rw [hzero, hchar _ (by omega), show 48 + (c.toNat - 48) = c.toNat by omega, Char.ofNat_toNat]

theorem digitValue_lt {c : Char} (h : c.isDigit = true) : digitValue c < 10 := by
  have hrange := toNat_of_isDigit h
  have hzero : digitValue c = c.toNat - 48 := rfl
  omega

theorem digitsValue_append_singleton (ds : List Char) (c : Char) :
    digitsValue (ds ++ [c]) = 10 * digitsValue ds + digitValue c := by
  simp [digitsValue]

end Text

namespace Date

theorem length_fixedDigits (width n : Nat) : (fixedDigits width n).length = width := by
  induction width generalizing n with
  | zero => rfl
  | succ width ih => simp [fixedDigits, ih]

theorem isDigit_of_mem_fixedDigits {width n : Nat} {c : Char} (h : c ∈ fixedDigits width n) :
    c.isDigit = true := by
  induction width generalizing n with
  | zero => simp [fixedDigits] at h
  | succ width ih =>
    rcases List.mem_append.1 h with h | h
    · exact ih h
    · obtain rfl := List.mem_singleton.1 h
      simp [Nat.mod_lt]

/-- A number that fits is read back from its digits. -/
theorem digitsValue_fixedDigits {width n : Nat} (h : n < 10 ^ width) :
    digitsValue (fixedDigits width n) = n := by
  induction width generalizing n with
  | zero => simpa [fixedDigits, digitsValue, eq_comm] using h
  | succ width ih =>
    have hfits : n / 10 < 10 ^ width := by
      rw [Nat.div_lt_iff_lt_mul (by decide)]
      rwa [Nat.pow_succ] at h
    rw [fixedDigits, digitsValue_append_singleton, ih hfits,
      digitValue_digitChar (Nat.mod_lt n (by decide))]
    omega

/-- Digits are written back from their number. -/
theorem fixedDigits_digitsValue {ds : List Char} (h : ∀ c ∈ ds, c.isDigit = true) :
    fixedDigits ds.length (digitsValue ds) = ds := by
  induction ds using List.reverseRecOn with
  | nil => rfl
  | append_singleton ds c ih =>
    have hc : c.isDigit = true := h c (by simp)
    have hds : ∀ d ∈ ds, d.isDigit = true := fun d hd => h d (List.mem_append_left _ hd)
    have hlt := digitValue_lt hc
    have hdiv : (10 * digitsValue ds + digitValue c) / 10 = digitsValue ds := by omega
    have hmod : (10 * digitsValue ds + digitValue c) % 10 = digitValue c := by omega
    rw [digitsValue_append_singleton, List.length_append, List.length_singleton, fixedDigits,
      hdiv, hmod, ih hds, digitChar_digitValue hc]

/-! ## Fields -/

/-- Fields of digits with hyphens between. -/
structure Fields (isDigit : Char → Bool) (cs year month day : List Char) : Prop where
  eq : cs = year ++ '-' :: month ++ '-' :: day
  year_length : year.length = 4
  month_length : month.length = 2
  day_length : day.length = 2
  digits : ∀ c ∈ year ++ month ++ day, isDigit c = true

theorem cutFields_eq_some_iff {isDigit : Char → Bool} {cs year month day : List Char} :
    cutFields isDigit cs = some (year, month, day) ↔ Fields isDigit cs year month day := by
  constructor
  · intro h
    unfold cutFields at h
    split at h
    · split at h
      · next hdigits =>
        simp only [Option.some.injEq, Prod.mk.injEq] at h
        obtain ⟨rfl, rfl, rfl⟩ := h
        exact ⟨rfl, rfl, rfl, rfl, List.all_eq_true.1 hdigits⟩
      · simp at h
    · simp at h
  · rintro ⟨rfl, hyear, hmonth, hday, hdigits⟩
    -- Lists of known length are lists of that many characters.
    match year, month, day, hyear, hmonth, hday with
    | [y₁, y₂, y₃, y₄], [m₁, m₂], [d₁, d₂], _, _, _ =>
      have hall : [y₁, y₂, y₃, y₄, m₁, m₂, d₁, d₂].all isDigit = true :=
        List.all_eq_true.2 hdigits
      simp only [List.cons_append, List.nil_append, cutFields, hall, if_true]

/-- Fields and hyphens are all there is. -/
theorem Fields.eq_hyphen_or {isDigit : Char → Bool} {cs year month day : List Char}
    (h : Fields isDigit cs year month day) {c : Char} (hc : c ∈ cs) :
    c = '-' ∨ isDigit c = true := by
  rw [h.eq] at hc
  simp only [List.mem_append, List.mem_cons] at hc
  rcases hc with (hc | rfl | hc) | rfl | hc
  · exact .inr (h.digits c (by simp [hc]))
  · exact .inl rfl
  · exact .inr (h.digits c (by simp [hc]))
  · exact .inl rfl
  · exact .inr (h.digits c (by simp [hc]))

theorem ofFields_eq_ok_iff {year month day : Nat} {d : Date} :
    ofFields year month day = .ok d ↔ d.year = year ∧ d.month = month ∧ d.day = day := by
  unfold ofFields
  constructor
  · intro h
    split at h
    · split at h
      · split at h
        · obtain rfl := Except.ok.inj h
          exact ⟨rfl, rfl, rfl⟩
        · simp at h
      · simp at h
    · simp at h
  · rintro ⟨rfl, rfl, rfl⟩
    rw [dif_pos d.year_mem, dif_pos d.month_mem, dif_pos d.day_mem]

/-! ## Texts -/

theorem monthLength_le (year month : Nat) : monthLength year month ≤ 31 := by
  unfold monthLength
  split_ifs <;> omega

/-- The fields of a date as it is written. -/
theorem fields_isoChars (d : Date) :
    Fields Char.isDigit d.isoChars (fixedDigits 4 d.year) (fixedDigits 2 d.month)
      (fixedDigits 2 d.day) where
  eq := by simp [isoChars]
  year_length := length_fixedDigits 4 d.year
  month_length := length_fixedDigits 2 d.month
  day_length := length_fixedDigits 2 d.day
  digits c hc := by
    simp only [List.mem_append] at hc
    rcases hc with (hc | hc) | hc <;> exact isDigit_of_mem_fixedDigits hc

theorem ofFields_isoChars (d : Date) :
    ofFields (digitsValue (fixedDigits 4 d.year)) (digitsValue (fixedDigits 2 d.month))
      (digitsValue (fixedDigits 2 d.day)) = .ok d := by
  have hyear := d.year_mem
  have hmonth := d.month_mem
  have hday := d.day_mem
  have hmost := monthLength_le d.year d.month
  rw [digitsValue_fixedDigits (by omega), digitsValue_fixedDigits (by omega),
    digitsValue_fixedDigits (by omega)]
  exact ofFields_eq_ok_iff.2 ⟨rfl, rfl, rfl⟩

/-- Fields of digits that name a date are the fields that the date is written with. -/
theorem isoChars_of_fields {cs year month day : List Char} {d : Date}
    (h : Fields Char.isDigit cs year month day)
    (hd : ofFields (digitsValue year) (digitsValue month) (digitsValue day) = .ok d) :
    d.isoChars = cs := by
  obtain ⟨hyear, hmonth, hday⟩ := ofFields_eq_ok_iff.1 hd
  have hfield : ∀ ds, ds ⊆ year ++ month ++ day → fixedDigits ds.length (digitsValue ds) = ds :=
    fun ds hds => fixedDigits_digitsValue fun c hc => h.digits c (hds hc)
  rw [isoChars, hyear, hmonth, hday, ← h.year_length, hfield year (by simp), h.eq]
  nth_rewrite 1 [← h.month_length]
  rw [hfield month (by simp), ← h.day_length, hfield day (by simp)]

/-- The shape of a date is that of a line, with or without a line break after it. -/
theorem hasShape_iff {cs : List Char} :
    hasShape cs = true ↔ ∃ line year month day, Fields isDecimalDigit line year month day ∧
      (cs = line ∨ cs = line ++ ['\n']) := by
  have hlast : ∀ {line year month day}, Fields isDecimalDigit line year month day →
      line.getLast? ≠ some '\n' := by
    intro line year month day hfields h
    rcases hfields.eq_hyphen_or (List.mem_of_getLast? h) with heq | hdigit
    · exact absurd heq (by decide)
    · exact absurd hdigit (by decide)
  constructor
  · intro h
    obtain ⟨⟨year, month, day⟩, hcut⟩ := Option.isSome_iff_exists.1 h
    refine ⟨dropFinalNewline cs, year, month, day, cutFields_eq_some_iff.1 hcut, ?_⟩
    unfold dropFinalNewline
    split
    · next hend =>
      obtain ⟨line, rfl⟩ := List.getLast?_eq_some_iff.1 hend
      exact .inr (by rw [List.dropLast_concat])
    · exact .inl rfl
  · rintro ⟨line, year, month, day, hfields, rfl | rfl⟩
    · rw [hasShape, dropFinalNewline, if_neg (hlast hfields), cutFields_eq_some_iff.2 hfields]
      rfl
    · rw [hasShape, dropFinalNewline, if_pos (by simp), List.dropLast_concat,
        cutFields_eq_some_iff.2 hfields]
      rfl

theorem hasShape_isoChars (d : Date) : hasShape d.isoChars = true := by
  have hfields := fields_isoChars d
  have hdigits : ∀ c ∈ _, isDecimalDigit c = true := fun c hc =>
    isDecimalDigit_of_isDigit (hfields.digits c hc)
  exact hasShape_iff.2 ⟨_, _, _, _, { hfields with digits := hdigits }, .inl rfl⟩

theorem toList_iso (d : Date) : d.iso.toList = d.isoChars := by simp [iso]

/-- **A date has one text.** -/
theorem parse_eq_ok_iff {s : String} {d : Date} : parse s = .ok d ↔ s = d.iso := by
  constructor
  · intro h
    unfold parse at h
    split at h
    · split at h
      · next year month day hcut =>
        have hchars := isoChars_of_fields (cutFields_eq_some_iff.1 hcut) h
        rw [iso, hchars, String.ofList_toList]
      · simp at h
    · simp at h
  · rintro rfl
    unfold parse
    rw [toList_iso, if_pos (hasShape_isoChars d), cutFields_eq_some_iff.2 (fields_isoChars d)]
    exact ofFields_isoChars d

theorem iso_injective : Function.Injective iso := by
  intro d e h
  have hd : parse d.iso = .ok d := parse_eq_ok_iff.2 rfl
  rw [h, parse_eq_ok_iff.2 rfl] at hd
  exact (Except.ok.inj hd).symm

/-! ## Named dates -/

/-- The character of a decimal digit. -/
def digit (n : Fin 10) : Char := Nat.digitChar n

/-- The text is four, two and two digits with hyphens between, and they are the fields of the
date. -/
def NamedBy (d : Date) (text : String) : Prop :=
  ∃ y₁ y₂ y₃ y₄ m₁ m₂ d₁ d₂ : Fin 10,
    text.toList = [digit y₁, digit y₂, digit y₃, digit y₄, '-', digit m₁, digit m₂, '-',
      digit d₁, digit d₂] ∧
    d.year = 1000 * y₁.val + 100 * y₂ + 10 * y₃ + y₄ ∧ d.month = 10 * m₁.val + m₂ ∧
    d.day = 10 * d₁.val + d₂

theorem fixedDigits_two (n : Nat) :
    fixedDigits 2 n = [digit (Fin.ofNat 10 (n / 10)), digit (Fin.ofNat 10 n)] := rfl

theorem fixedDigits_four (n : Nat) :
    fixedDigits 4 n = [digit (Fin.ofNat 10 (n / 10 / 10 / 10)), digit (Fin.ofNat 10 (n / 10 / 10)),
      digit (Fin.ofNat 10 (n / 10)), digit (Fin.ofNat 10 n)] := rfl

/-- A date is named by the text it is written as. -/
theorem namedBy_iff {d : Date} {text : String} : d.NamedBy text ↔ text = d.iso := by
  have hyear := d.year_mem
  have hmonth := d.month_mem
  have hday := d.day_mem
  have hmost := monthLength_le d.year d.month
  rw [← String.toList_inj, toList_iso, isoChars, fixedDigits_four, fixedDigits_two,
    fixedDigits_two]
  constructor
  · rintro ⟨y₁, y₂, y₃, y₄, m₁, m₂, d₁, d₂, htext, hy, hm, hd⟩
    have hdigit : ∀ (n : Nat) (k : Fin 10), n % 10 = k → Fin.ofNat 10 n = k :=
      fun n k h => Fin.ext h
    rw [htext, hdigit _ y₁ (by omega), hdigit _ y₂ (by omega), hdigit _ y₃ (by omega),
      hdigit _ y₄ (by omega), hdigit _ m₁ (by omega), hdigit _ m₂ (by omega),
      hdigit _ d₁ (by omega), hdigit _ d₂ (by omega)]
    rfl
  · intro htext
    refine ⟨_, _, _, _, _, _, _, _, htext, ?_, ?_, ?_⟩ <;> simp only [Fin.val_ofNat] <;> omega

theorem NamedBy.eq {d e : Date} {text : String} (hd : d.NamedBy text) (he : e.NamedBy text) :
    d = e :=
  iso_injective ((namedBy_iff.1 hd).symm.trans (namedBy_iff.1 he))

end Date

/-! ## Spans -/

namespace Span

/-- The bounds are the first and the last day of the span, as they are written. -/
def WrittenAs (s : Span) (start finish : String) : Prop :=
  start = s.first.iso ∧ finish = s.last.iso

/-- Two bounds write one span. -/
theorem WrittenAs.eq {s t : Span} {start finish : String} (hs : s.WrittenAs start finish)
    (ht : t.WrittenAs start finish) : s = t := by
  obtain ⟨first, last, ordered⟩ := s
  obtain ⟨first', last', ordered'⟩ := t
  obtain rfl : first = first' := Date.iso_injective (hs.1.symm.trans ht.1)
  obtain rfl : last = last' := Date.iso_injective (hs.2.symm.trans ht.2)
  rfl

theorem readBound_eq_ok_iff {label text : String} {d : Date} :
    readBound label text = .ok d ↔ text = d.iso := by
  rw [← Date.parse_eq_ok_iff, readBound]
  cases Date.parse text <;> simp

theorem readBound_eq_ok_iff_namedBy {label text : String} {d : Date} :
    readBound label text = .ok d ↔ d.NamedBy text := by
  rw [readBound_eq_ok_iff, Date.namedBy_iff]

theorem exists_readBound_error (label : String) {text : String} (h : ∀ d : Date, ¬ d.NamedBy text) :
    ∃ fault, readBound label text = .error (.notADate label text fault) := by
  unfold readBound
  cases hparse : Date.parse text with
  | ok d => exact absurd (Date.namedBy_iff.2 (Date.parse_eq_ok_iff.1 hparse)) (h d)
  | error fault => exact ⟨fault, rfl⟩

theorem code_of_readBound {label text : String} {fault : SpanFault}
    (h : readBound label text = .error fault) : fault.code = .invalidDateRange := by
  unfold readBound at h
  split at h
  · simp at h
  · obtain rfl := Except.error.inj h
    rfl

/-- What a check of two bounds comes to: the span between them, or that it is too long, or that
there is none. -/
theorem check_cases (start finish : String) (most : Int) :
    (∃ s : Span, s.WrittenAs start finish ∧ s.days ≤ most ∧ check start finish most = .ok s) ∨
      (∃ s : Span, s.WrittenAs start finish ∧ most < s.days ∧
        check start finish most = .error (.tooLong s.days most)) ∨
      (∀ s : Span, ¬ s.WrittenAs start finish) ∧
        ∃ fault, fault.code = .invalidDateRange ∧ check start finish most = .error fault := by
  unfold check
  cases hstart : readBound "start" start with
  | error fault =>
    refine .inr (.inr ⟨fun s hs => ?_, fault, code_of_readBound hstart, rfl⟩)
    rw [readBound_eq_ok_iff.2 hs.1] at hstart
    cases hstart
  | ok first =>
    cases hfinish : readBound "end" finish with
    | error fault =>
      refine .inr (.inr ⟨fun s hs => ?_, fault, code_of_readBound hfinish, rfl⟩)
      rw [readBound_eq_ok_iff.2 hs.2] at hfinish
      cases hfinish
    | ok last =>
      have hfirst := readBound_eq_ok_iff.1 hstart
      have hlast := readBound_eq_ok_iff.1 hfinish
      by_cases hordered : last < first
      · refine .inr (.inr ⟨fun s hs => s.ordered ?_, .inverted first last, rfl, dif_pos hordered⟩)
        rw [← Date.iso_injective (hfirst.symm.trans hs.1),
          ← Date.iso_injective (hlast.symm.trans hs.2)]
        exact hordered
      · simp only [dif_neg hordered]
        by_cases hlong : most < (Span.mk first last hordered).days
        · exact .inr (.inl ⟨⟨first, last, hordered⟩, ⟨hfirst, hlast⟩, hlong, if_pos hlong⟩)
        · exact .inl ⟨⟨first, last, hordered⟩, ⟨hfirst, hlast⟩, Int.not_lt.1 hlong, if_neg hlong⟩

end Span

end MetricQuery
