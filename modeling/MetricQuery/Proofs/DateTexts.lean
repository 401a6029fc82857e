import MetricQuery.Proofs.WrittenDates
import MetricQuery.Proofs.Explained

/-!
# Dates and their texts

**Theorem (`canonical_bounds`).** The texts that read as dates are the ten characters `YYYY-MM-DD`
that name one, and nothing is lost in reading: a date is written as it was read, and dates are in
the order of their texts. So a compiled query binds the bounds of its range as the caller wrote
them, and they are in order as texts.

The shape that is asked for first lets through more than that, digits of other scripts and a final
line break (`hasShape_iff`). Such a text is refused in the next step, as one of its own kind.

Digits of a fixed width are in the order of their numbers (`fixedDigits_lt_iff`), by induction on
the width; and texts that begin with as many characters are in order by these first.
-/

namespace MetricQuery

open Sql Text

namespace Date

/-! ## Order of texts -/

theorem append_lt_append_iff {a b : List Char} (h : a.length = b.length) (x y : List Char) :
    a ++ x < b ++ y ↔ a < b ∨ a = b ∧ x < y := by
  induction a generalizing b with
  | nil =>
    obtain rfl := List.length_eq_zero_iff.1 h.symm
    simp
  | cons c a ih =>
    cases b with
    | nil => simp at h
    | cons d b =>
      simp only [List.cons_append, List.cons_lt_cons_iff, ih (Nat.succ.inj h), List.cons.injEq]
      tauto

theorem digitChar_lt_iff {m n : Nat} (hm : m < 10) (hn : n < 10) :
    Nat.digitChar m < Nat.digitChar n ↔ m < n := by
  have hall : ∀ m < 10, ∀ n < 10, Nat.digitChar m < Nat.digitChar n ↔ m < n := by decide
  exact hall m hm n hn

theorem fixedDigits_inj {width m n : Nat} (hm : m < 10 ^ width) (hn : n < 10 ^ width) :
    fixedDigits width m = fixedDigits width n ↔ m = n := by
  constructor
  · intro h
    rw [← digitsValue_fixedDigits hm, h, digitsValue_fixedDigits hn]
  · rintro rfl
    rfl

/-- Padded to one width, numbers are in the order of their digits. -/
theorem fixedDigits_lt_iff {width m n : Nat} (hm : m < 10 ^ width) (hn : n < 10 ^ width) :
    fixedDigits width m < fixedDigits width n ↔ m < n := by
  induction width generalizing m n with
  | zero =>
    simp only [Nat.pow_zero, Nat.lt_one_iff] at hm hn
    simp [hm, hn]
  | succ width ih =>
    have hfits : ∀ {k}, k < 10 ^ (width + 1) → k / 10 < 10 ^ width := by
      intro k hk
      rw [Nat.div_lt_iff_lt_mul (by decide)]
      rwa [Nat.pow_succ] at hk
    have hlength : (fixedDigits width (m / 10)).length = (fixedDigits width (n / 10)).length := by
      rw [length_fixedDigits, length_fixedDigits]
    have hlast : ∀ {a b : Char}, [a] < [b] ↔ a < b := by simp [List.cons_lt_cons_iff]
    rw [fixedDigits, fixedDigits, append_lt_append_iff hlength, ih (hfits hm) (hfits hn),
      fixedDigits_inj (hfits hm) (hfits hn), hlast,
      digitChar_lt_iff (Nat.mod_lt m (by decide)) (Nat.mod_lt n (by decide))]
    omega

/-- Dates are in the order of their texts. -/
theorem iso_lt_iso_iff {d e : Date} : d.iso < e.iso ↔ d < e := by
  have hfits : ∀ d : Date, d.year < 10 ^ 4 ∧ d.month < 10 ^ 2 ∧ d.day < 10 ^ 2 := by
    intro d
    have hyear := d.year_mem
    have hmonth := d.month_mem
    have hday := d.day_mem
    have hmost := monthLength_le d.year d.month
    omega
  obtain ⟨hy, hm, hd⟩ := hfits d
  obtain ⟨hy', hm', hd'⟩ := hfits e
  have hlength : ∀ width m n, (fixedDigits width m).length = (fixedDigits width n).length := by
    intro width m n
    rw [length_fixedDigits, length_fixedDigits]
  have hhyphen : ∀ x y : List Char, '-' :: x < '-' :: y ↔ x < y := by
    intro x y
    simp
  have hlists : d.iso < e.iso ↔ d.iso.toList < e.iso.toList := Iff.rfl
  rw [hlists, toList_iso, toList_iso]
  simp only [isoChars, List.append_assoc, List.cons_append]
  rw [append_lt_append_iff (hlength _ _ _), hhyphen, append_lt_append_iff (hlength _ _ _), hhyphen,
    fixedDigits_lt_iff hy hy', fixedDigits_inj hy hy', fixedDigits_lt_iff hm hm',
    fixedDigits_inj hm hm', fixedDigits_lt_iff hd hd']
  exact Iff.rfl

/-! ## Digits of other scripts -/

theorem isDigit_of_isDecimalDigit {c : Char} (h : isDecimalDigit c = true) (hc : c.toNat < 128) :
    c.isDigit = true := by
  obtain ⟨first, hfirst, hrange⟩ := List.any_eq_true.1 h
  simp only [Bool.and_eq_true, decide_eq_true_eq] at hrange
  have hascii : ∀ z ∈ decimalZeros, z < 128 → z = 48 := by decide
  obtain rfl := hascii first hfirst (by omega)
  have hbounds : 48 ≤ c.toNat ∧ c.toNat ≤ 57 := by omega
  simpa [Char.isDigit, UInt32.le_iff_toNat_le] using hbounds

theorem parse_eq_nonStandard_iff {s : String} (h : hasShape s.toList = true) :
    parse s = .error (.nonStandard s) ↔ cutFields Char.isDigit s.toList = none := by
  unfold parse
  rw [if_pos h]
  cases hcut : cutFields Char.isDigit s.toList with
  | none => simp
  | some fields =>
    obtain ⟨year, month, day⟩ := fields
    simp only [reduceCtorEq, iff_false, ofFields]
    split_ifs <;> simp

/-- A text of the right shape is refused for its characters if it has a digit of another script or
ends in a line break. -/
theorem parse_foreign_iff {s : String} (h : hasShape s.toList = true) :
    parse s = .error (.nonStandard s) ↔
      (∃ c ∈ s.toList, 128 ≤ c.toNat) ∨ s.toList.getLast? = some '\n' := by
  rw [parse_eq_nonStandard_iff h]
  constructor
  · intro hnone
    obtain ⟨line, year, month, day, hline, heq | heq⟩ := hasShape_iff.1 h
    · refine .inl ?_
      by_contra hascii
      simp only [not_exists, not_and, Nat.not_le] at hascii
      have hdigits : ∀ c ∈ year ++ month ++ day, c.isDigit = true := by
        intro c hc
        have hmem : c ∈ s.toList := by
          rw [heq, hline.eq]
          simp only [List.mem_append, List.mem_cons] at hc ⊢
          tauto
        exact isDigit_of_isDecimalDigit (hline.digits c hc) (hascii c hmem)
      rw [heq, cutFields_eq_some_iff.2 { hline with digits := hdigits }] at hnone
      cases hnone
    · exact .inr (by rw [heq]; simp)
  · intro hforeign
    rw [Option.eq_none_iff_forall_ne_some]
    rintro ⟨year, month, day⟩ hsome
    have hline := cutFields_eq_some_iff.1 hsome
    rcases hforeign with ⟨c, hc, hlarge⟩ | hlast
    · rcases hline.eq_hyphen_or hc with rfl | hdigit
      · exact absurd hlarge (by decide)
      · have hrange := toNat_of_isDigit hdigit
        omega
    · rcases hline.eq_hyphen_or (List.mem_of_getLast? hlast) with heq | hdigit
      · exact absurd heq (by decide)
      · exact absurd hdigit (by decide)

end Date

/-! ## Bound ranges -/

/-- The query binds the bounds of the range as they were written, behind the tenant and the
location, and they are in order as texts. -/
structure Query.BindsRange (q : Query) (request : Request) (range : DateRange) : Prop where
  predicate : ∃ subject, Predicate.between subject (.str range.start) (.str range.finish) ∈
    q.statement.conditions
  params : ∃ rest, q.params = .str request.tenant :: request.location.toList.map .str ++
    [.str range.start, .str range.finish] ++ rest
  ordered : range.start ≤ range.finish

theorem Restriction.values_scope (settings : Settings) (request : Request) :
    ((scope settings request).map Predicate.written).flatMap Prod.snd =
      .str request.tenant :: request.location.toList.map .str := by
  cases hlocation : request.location <;>
    simp [scope, hlocation, Predicate.written, Predicate.pieces, Piece.values]

theorem Restriction.exists_span {settings : Settings} {request : Request} {range : DateRange}
    {days : Option Span} (h : span settings request = .ok days)
    (hrange : request.plan.dateRange = some range) :
    ∃ s : Span, days = some s ∧ s.WrittenAs range.start range.finish := by
  have hreads := exists_days h
  rw [hrange] at hreads
  cases days with
  | none => cases hreads
  | some s =>
    cases hreads with
    | some hs => exact ⟨s, rfl, Date.parse_eq_ok_iff.1 hs.1, Date.parse_eq_ok_iff.1 hs.2⟩

theorem Span.le_of_writtenAs {s : Span} {start finish : String} (h : s.WrittenAs start finish) :
    start ≤ finish := by
  intro hlt
  rw [h.1, h.2] at hlt
  exact s.ordered (Date.iso_lt_iso_iff.1 hlt)

theorem Compilation.bindsRange {registry : Registry} {settings : Settings} {request : Request}
    {q : Query} (c : Compilation registry settings request q) {range : DateRange}
    (hrange : request.plan.dateRange = some range) : q.BindsRange request range := by
  obtain ⟨days, ofM, ofF, hspan, -, -, -, hall⟩ := Restriction.all_eq_ok.1 c.restricted
  obtain ⟨s, rfl, hwritten⟩ := Restriction.exists_span hspan hrange
  have hconditions : ∃ subject rest, q.statement.conditions = Restriction.scope settings request ++
      .between subject (.str range.start) (.str range.finish) :: rest := by
    refine ⟨c.selection.timeSubject settings.timeColumn, ofM ++ ofF, ?_⟩
    rw [c.conditions_eq, ← hall, hwritten.1, hwritten.2]
    simp [Restriction.ofSpan]
  obtain ⟨subject, rest, hconditions⟩ := hconditions
  refine ⟨⟨subject, ?_⟩, ⟨(rest.map Predicate.written).flatMap Prod.snd ++ [.int q.statement.limit],
    ?_⟩, Span.le_of_writtenAs hwritten⟩
  · rw [hconditions]
    simp
  · rw [Query.params, Statement.params_written, hconditions, List.map_append, List.flatMap_append,
      Restriction.values_scope]
    simp [Predicate.written, Predicate.pieces, Piece.values]

/-! ## Texts and dates -/

/-- How the texts of bounds and the dates go together. -/
structure CanonicalBounds (label : String) : Prop where
  ok_iff : ∀ text d, Span.readBound label text = .ok d ↔ Date.NamedBy d text
  error_code : ∀ text fault, Span.readBound label text = .error fault →
    fault.code = .invalidDateRange
  /-- The shape lets through the digits of any script, and a line break. -/
  shape_iff : ∀ text : String, Date.hasShape text.toList = true ↔
    ∃ line year month day, Date.Fields isDecimalDigit line year month day ∧
      (text.toList = line ∨ text.toList = line ++ ['\n'])
  foreign_iff : ∀ text : String, Date.hasShape text.toList = true →
    (Span.readBound label text = .error (.notADate label text (.nonStandard text)) ↔
      (∃ c ∈ text.toList, 128 ≤ c.toNat) ∨ text.toList.getLast? = some '\n')
  iso_eq : ∀ text d, Span.readBound label text = .ok d → d.iso = text
  ok_iso : ∀ d : Date, Span.readBound label d.iso = .ok d
  lt_iff : ∀ text text' d d', Span.readBound label text = .ok d →
    Span.readBound label text' = .ok d' → (d < d' ↔ text < text')
  compiled : ∀ (registry : Registry) (settings : Settings) (request : Request) (q : Query)
    (range : DateRange), (compile registry settings request).outcome = .ok q →
      request.plan.dateRange = some range → q.BindsRange request range

/-- **Dates have canonical texts.** -/
theorem canonical_bounds (label : String) : CanonicalBounds label where
  ok_iff _ _ := Span.readBound_eq_ok_iff_namedBy
  error_code _ _ := Span.code_of_readBound
  shape_iff _ := Date.hasShape_iff
  foreign_iff text h := by
    rw [← Date.parse_foreign_iff h, Span.readBound]
    cases Date.parse text <;> simp
  iso_eq _ _ h := (Span.readBound_eq_ok_iff.1 h).symm
  ok_iso _ := Span.readBound_eq_ok_iff.2 rfl
  lt_iff text text' d d' h h' := by
    rw [Span.readBound_eq_ok_iff.1 h, Span.readBound_eq_ok_iff.1 h', Date.iso_lt_iso_iff]
  compiled registry settings request q range h hrange := by
    obtain ⟨c⟩ := exists_compilation h
    exact c.bindsRange hrange

/-- Digits of another script have the shape of a date and name none. -/
example : Date.hasShape "\uff12024-02-29".toList = true ∧
    Span.readBound "start" "\uff12024-02-29" =
      .error (.notADate "start" "\uff12024-02-29" (.nonStandard "\uff12024-02-29")) := by
  decide

end MetricQuery
