import MetricQuery.Plan.Basic
import MetricQuery.Proofs.WrittenDates
import Mathlib.Data.Set.Card
import Mathlib.Order.Interval.Finset.Nat

/-!
# Counting days

**Theorem (`judged_range`).** A range of dates is checked by the days of the calendar. It is
accepted exactly if its bounds name two days in order and there are no more days from the one to the
other than allowed, and the length of an accepted span is the number of these days. The refusals say
which of that fails, the first bound before the second.

`Date.number` is a formula. That it counts days takes two facts about the calendar: a later day has
a larger number (`number_lt_number`), and every day but the last has a next one, whose number is
larger by one (`exists_next`). So numbers map the days of a span one to one onto the numbers between
those of its ends (`bijOn_number`).
-/

namespace MetricQuery

namespace Date

/-! ## Order -/

theorem lt_iff {a b : Date} : a < b ↔
    a.year < b.year ∨ a.year = b.year ∧ (a.month < b.month ∨ a.month = b.month ∧ a.day < b.day) :=
  Iff.rfl

theorem eq_of_fields {a b : Date} (hyear : a.year = b.year) (hmonth : a.month = b.month)
    (hday : a.day = b.day) : a = b := by
  cases a
  cases b
  cases hyear
  cases hmonth
  cases hday
  rfl

theorem lt_trichotomy (a b : Date) : a < b ∨ a = b ∨ b < a := by
  by_cases heq : a.year = b.year ∧ a.month = b.month ∧ a.day = b.day
  · exact .inr (.inl (eq_of_fields heq.1 heq.2.1 heq.2.2))
  · rw [lt_iff, lt_iff]
    omega

/-! ## Months and years -/

def yearLength (year : Nat) : Nat := if isLeapYear year then 366 else 365

theorem daysBeforeMonth_succ (year : Nat) {month : Nat} (h : 1 ≤ month) :
    daysBeforeMonth year (month + 1) = daysBeforeMonth year month + monthLength year month := by
  obtain ⟨month, rfl⟩ := Nat.exists_eq_add_of_le' h
  rfl

theorem daysBeforeMonth_mono (year : Nat) : Monotone (daysBeforeMonth year) := by
  refine monotone_nat_of_le_succ fun month => ?_
  cases month with
  | zero => exact Nat.le_refl 0
  | succ month => exact Nat.le_add_right _ _

theorem daysBeforeMonth_end (year : Nat) : daysBeforeMonth year 13 = yearLength year := by
  unfold yearLength
  cases h : isLeapYear year <;> simp [daysBeforeMonth, monthLength, h]

theorem isLeapYear_iff (year : Nat) :
    isLeapYear year = true ↔ 4 ∣ year ∧ (¬ 100 ∣ year ∨ 400 ∣ year) := by
  simp [isLeapYear, Nat.dvd_iff_mod_eq_zero]

/-- A step to the next year takes that year's days: one more in every fourth year, but not at the
end of a century, unless it is a fourth one. -/
theorem daysBeforeYear_succ {year : Nat} (h : 1 ≤ year) :
    daysBeforeYear (year + 1) = daysBeforeYear year + yearLength year := by
  obtain ⟨k, rfl⟩ := Nat.exists_eq_add_of_le' h
  have hle : k / 100 ≤ k / 4 := Nat.div_le_div_left (by decide) (by decide)
  have hcentury : 100 ∣ k + 1 → 4 ∣ k + 1 := (by decide : 4 ∣ 100).trans
  have hfourth : 400 ∣ k + 1 → 100 ∣ k + 1 := (by decide : 100 ∣ 400).trans
  simp only [daysBeforeYear, yearLength, isLeapYear_iff, Nat.add_sub_cancel, Nat.succ_div]
  generalize k / 4 = leaps, k / 100 = centuries at hle ⊢
  by_cases h400 : 400 ∣ k + 1
  · have h100 := hfourth h400
    simp only [h400, h100, hcentury h100, if_true, not_true, or_true, and_true]
    omega
  · by_cases h100 : 100 ∣ k + 1
    · simp only [h400, h100, hcentury h100, if_true, if_false, not_true, or_false, and_false]
      omega
    · by_cases h4 : 4 ∣ k + 1 <;>
        simp only [h400, h100, h4, if_true, if_false, not_false_eq_true, true_or, and_true] <;>
        omega

theorem daysBeforeYear_mono : Monotone daysBeforeYear := by
  refine monotone_nat_of_le_succ fun year => ?_
  cases year with
  | zero => exact Nat.le_refl 0
  | succ year =>
    rw [daysBeforeYear_succ (Nat.succ_pos year)]
    exact Nat.le_add_right _ _

/-! ## Numbers of days -/

/-- The days before the month of a date, of all years. -/
def daysBefore (d : Date) : Nat := daysBeforeYear d.year + daysBeforeMonth d.year d.month

theorem daysBefore_lt_number (d : Date) : d.daysBefore < d.number :=
  Nat.lt_add_of_pos_right d.day_mem.1

theorem number_le (d : Date) : d.number ≤ d.daysBefore + monthLength d.year d.month :=
  Nat.add_le_add_left d.day_mem.2 _

theorem daysBefore_add_le_of_month {a b : Date} (hyear : a.year = b.year)
    (hmonth : a.month < b.month) : a.daysBefore + monthLength a.year a.month ≤ b.daysBefore := by
  calc a.daysBefore + monthLength a.year a.month
      = daysBeforeYear a.year + daysBeforeMonth a.year (a.month + 1) := by
        rw [daysBefore, daysBeforeMonth_succ a.year a.month_mem.1, Nat.add_assoc]
    _ ≤ daysBeforeYear a.year + daysBeforeMonth a.year b.month :=
        Nat.add_le_add_left (daysBeforeMonth_mono a.year hmonth) _
    _ = b.daysBefore := by rw [daysBefore, hyear]

theorem daysBefore_add_le_of_year {a b : Date} (hyear : a.year < b.year) :
    a.daysBefore + monthLength a.year a.month ≤ b.daysBefore := by
  have hmonth : a.month + 1 ≤ 13 := Nat.succ_le_succ a.month_mem.2
  calc a.daysBefore + monthLength a.year a.month
      = daysBeforeYear a.year + daysBeforeMonth a.year (a.month + 1) := by
        rw [daysBefore, daysBeforeMonth_succ a.year a.month_mem.1, Nat.add_assoc]
    _ ≤ daysBeforeYear a.year + daysBeforeMonth a.year 13 :=
        Nat.add_le_add_left (daysBeforeMonth_mono a.year hmonth) _
    _ = daysBeforeYear (a.year + 1) := by
        rw [daysBeforeMonth_end, daysBeforeYear_succ a.year_mem.1]
    _ ≤ daysBeforeYear b.year := daysBeforeYear_mono hyear
    _ ≤ b.daysBefore := Nat.le_add_right _ _

/-- Later days have larger numbers. -/
theorem number_lt_number {a b : Date} (h : a < b) : a.number < b.number := by
  have hle : ∀ {a b : Date}, a.daysBefore + monthLength a.year a.month ≤ b.daysBefore →
      a.number < b.number := fun {a b} h =>
    (a.number_le.trans h).trans_lt b.daysBefore_lt_number
  rcases h with hyear | ⟨hyear, hmonth | ⟨hmonth, hday⟩⟩
  · exact hle (daysBefore_add_le_of_year hyear)
  · exact hle (daysBefore_add_le_of_month hyear hmonth)
  · simp only [number, hyear, hmonth]
    exact Nat.add_lt_add_left hday _

theorem number_lt_iff {a b : Date} : a.number < b.number ↔ a < b := by
  refine ⟨fun h => ?_, number_lt_number⟩
  rcases lt_trichotomy a b with hlt | rfl | hgt
  · exact hlt
  · exact absurd h (Nat.lt_irrefl _)
  · exact absurd h (Nat.lt_asymm (number_lt_number hgt))

theorem number_injective : Function.Injective number := by
  intro a b h
  rcases lt_trichotomy a b with hlt | heq | hgt
  · exact absurd h (number_lt_number hlt).ne
  · exact heq
  · exact absurd h (number_lt_number hgt).ne'

theorem one_le_monthLength (year month : Nat) : 1 ≤ monthLength year month := by
  unfold monthLength
  split_ifs <;> decide

/-- Every day but the last has a next one. -/
theorem exists_next {d e : Date} (h : d < e) : ∃ n : Date, n.number = d.number + 1 := by
  have hyear := d.year_mem
  have hmonth := d.month_mem
  by_cases hday : d.day < monthLength d.year d.month
  · exact ⟨⟨d.year, d.month, d.day + 1, hyear, hmonth, Nat.succ_pos _, hday⟩, rfl⟩
  have hfull : d.day = monthLength d.year d.month := d.day_mem.2.antisymm (Nat.not_lt.1 hday)
  by_cases hdecember : d.month < 12
  · refine ⟨⟨d.year, d.month + 1, 1, hyear, ⟨Nat.succ_pos _, hdecember⟩, le_rfl,
      one_le_monthLength _ _⟩, ?_⟩
    rw [number, number, daysBeforeMonth_succ d.year hmonth.1, hfull,
      Nat.add_assoc _ _ (monthLength _ _)]
  have htwelve : d.month = 12 := hmonth.2.antisymm (Nat.not_lt.1 hdecember)
  have hwhole : daysBeforeMonth d.year 12 + monthLength d.year 12 = yearLength d.year := by
    rw [← daysBeforeMonth_succ d.year (by decide), daysBeforeMonth_end]
  have hend : d.year < 9999 := by
    have hmost := monthLength_le e.year e.month
    have hyear' := e.year_mem
    have hmonth' := e.month_mem
    have hday' := e.day_mem
    have hlength : monthLength d.year d.month = 31 := by rw [htwelve]; rfl
    rw [lt_iff] at h
    omega
  refine ⟨⟨d.year + 1, 1, 1, ⟨Nat.succ_pos _, hend⟩, by decide, le_rfl, one_le_monthLength _ _⟩, ?_⟩
  rw [number, number, daysBeforeYear_succ hyear.1, hfull, htwelve,
    Nat.add_assoc _ _ (monthLength _ _), hwhole]
  rfl

/-- No number is left out between those of two days. -/
theorem exists_number {a b : Date} {n : Nat} (ha : a.number ≤ n) (hb : n ≤ b.number) :
    ∃ d : Date, d.number = n := by
  induction n, ha using Nat.le_induction with
  | base => exact ⟨a, rfl⟩
  | succ n _ ih =>
    obtain ⟨d, hd⟩ := ih (Nat.le_of_succ_le hb)
    have hlt : d < b := number_lt_iff.1 (by omega)
    rw [← hd]
    exact exists_next hlt

/-! ## Counting days -/

/-- The days from one to another, both included. -/
def between (a b : Date) : Set Date := {d | ¬ d < a ∧ ¬ b < d}

theorem mem_between {a b d : Date} : d ∈ between a b ↔ d.number ∈ Set.Icc a.number b.number := by
  rw [Set.mem_Icc, ← Nat.not_lt, ← Nat.not_lt, number_lt_iff, number_lt_iff]
  rfl

theorem bijOn_number (a b : Date) :
    Set.BijOn number (between a b) (Set.Icc a.number b.number) := by
  refine ⟨fun d hd => mem_between.1 hd, number_injective.injOn, fun n hn => ?_⟩
  obtain ⟨d, rfl⟩ := exists_number hn.1 hn.2
  exact ⟨d, mem_between.2 hn, rfl⟩

theorem finite_between (a b : Date) : (between a b).Finite :=
  (bijOn_number a b).finite_iff_finite.2 (Set.finite_Icc _ _)

theorem ncard_between (a b : Date) : (between a b).ncard = b.number + 1 - a.number := by
  rw [(bijOn_number a b).ncard_eq, ← Nat.card_Icc, ← Set.ncard_coe_finset, Finset.coe_Icc]

end Date

/-! ## Checked ranges -/

namespace Span

/-- The days of a span. -/
def dates (s : Span) : Set Date := Date.between s.first s.last

theorem ncard_dates (s : Span) : s.dates.ncard = s.days := Date.ncard_between s.first s.last

/-- The bounds of a range name the ends of the span. -/
def NamedBy (s : Span) (range : DateRange) : Prop :=
  s.first.NamedBy range.start ∧ s.last.NamedBy range.finish

theorem writtenAs_iff {s : Span} {range : DateRange} :
    s.WrittenAs range.start range.finish ↔ s.NamedBy range := by
  rw [WrittenAs, NamedBy, Date.namedBy_iff, Date.namedBy_iff]

theorem NamedBy.eq {s t : Span} {range : DateRange} (hs : s.NamedBy range) (ht : t.NamedBy range) :
    s = t :=
  (writtenAs_iff.2 hs).eq (writtenAs_iff.2 ht)

section Check

variable {range : DateRange} {most : Int}

/-- The three ways in which a check ends, by the days of the calendar. -/
theorem check_cases_dates (range : DateRange) (most : Int) :
    (∃ s : Span, s.NamedBy range ∧ (s.dates.ncard : Int) ≤ most ∧
        check range.start range.finish most = .ok s) ∨
      (∃ s : Span, s.NamedBy range ∧ most < s.dates.ncard ∧
        check range.start range.finish most = .error (.tooLong s.dates.ncard most)) ∨
      (∀ s : Span, ¬ s.NamedBy range) ∧ ∃ fault, fault.code = .invalidDateRange ∧
        check range.start range.finish most = .error fault := by
  simpa only [writtenAs_iff, ncard_dates] using check_cases range.start range.finish most

theorem check_eq_ok_iff {s : Span} : check range.start range.finish most = .ok s ↔
    s.NamedBy range ∧ (s.dates.ncard : Int) ≤ most := by
  constructor
  · intro h
    obtain ⟨t, ht, hmost, hcheck⟩ | ⟨t, -, -, hcheck⟩ | ⟨-, fault, -, hcheck⟩ :=
      check_cases_dates range most
    · obtain rfl := Except.ok.inj (hcheck.symm.trans h)
      exact ⟨ht, hmost⟩
    · cases hcheck.symm.trans h
    · cases hcheck.symm.trans h
  · rintro ⟨hs, hmost⟩
    obtain ⟨t, ht, -, hcheck⟩ | ⟨t, ht, hlong, -⟩ | ⟨hnone, -⟩ := check_cases_dates range most
    · rw [hcheck, ht.eq hs]
    · rw [ht.eq hs] at hlong
      exact absurd hmost (Int.not_le.2 hlong)
    · exact absurd hs (hnone s)

theorem check_tooLong_iff {fault : SpanFault} :
    check range.start range.finish most = .error fault ∧ fault.code = .dateRangeTooLarge ↔
      ∃ s : Span, s.NamedBy range ∧ most < s.dates.ncard ∧ fault = .tooLong s.dates.ncard most := by
  constructor
  · rintro ⟨h, hcode⟩
    obtain ⟨t, -, -, hcheck⟩ | ⟨t, ht, hlong, hcheck⟩ | ⟨-, fault', hcode', hcheck⟩ :=
      check_cases_dates range most
    · cases hcheck.symm.trans h
    · exact ⟨t, ht, hlong, Except.error.inj (h.symm.trans hcheck)⟩
    · obtain rfl := Except.error.inj (hcheck.symm.trans h)
      cases hcode'.symm.trans hcode
  · rintro ⟨s, hs, hlong, rfl⟩
    obtain ⟨t, ht, hmost, -⟩ | ⟨t, ht, -, hcheck⟩ | ⟨hnone, -⟩ := check_cases_dates range most
    · rw [ht.eq hs] at hmost
      exact absurd hmost (Int.not_le.2 hlong)
    · rw [hcheck, ht.eq hs]
      exact ⟨rfl, rfl⟩
    · exact absurd hs (hnone s)

theorem check_invalid_iff :
    (∃ fault, check range.start range.finish most = .error fault ∧
      fault.code = .invalidDateRange) ↔ ∀ s : Span, ¬ s.NamedBy range := by
  constructor
  · rintro ⟨fault, h, hcode⟩ s hs
    obtain ⟨t, -, -, hcheck⟩ | ⟨t, -, -, hcheck⟩ | ⟨hnone, -⟩ := check_cases_dates range most
    · cases hcheck.symm.trans h
    · obtain rfl := Except.error.inj (hcheck.symm.trans h)
      cases hcode
    · exact hnone s hs
  · intro hnone
    obtain ⟨t, ht, -⟩ | ⟨t, ht, -⟩ | ⟨-, fault, hcode, hcheck⟩ := check_cases_dates range most
    · exact absurd ht (hnone t)
    · exact absurd ht (hnone t)
    · exact ⟨fault, hcheck, hcode⟩

end Check

/-- What the check of a range comes to, by the days of the calendar. -/
structure Judged (range : DateRange) (most : Int) : Prop where
  /-- A span is of days in order, and the days from its first to its last are counted. -/
  ok_iff : ∀ s, check range.start range.finish most = .ok s ↔
    s.NamedBy range ∧ (s.dates.ncard : Int) ≤ most
  finite : ∀ s : Span, s.dates.Finite
  days : ∀ s : Span, s.days = s.dates.ncard
  tooLong_iff : ∀ fault, check range.start range.finish most = .error fault ∧
    fault.code = .dateRangeTooLarge ↔
      ∃ s : Span, s.NamedBy range ∧ most < s.dates.ncard ∧ fault = .tooLong s.dates.ncard most
  invalid_iff : (∃ fault, check range.start range.finish most = .error fault ∧
    fault.code = .invalidDateRange) ↔ ∀ s : Span, ¬ s.NamedBy range
  start : (∀ d : Date, ¬ d.NamedBy range.start) →
    ∃ fault, check range.start range.finish most = .error (.notADate "start" range.start fault)
  finish : ∀ a : Date, a.NamedBy range.start → (∀ d : Date, ¬ d.NamedBy range.finish) →
    ∃ fault, check range.start range.finish most = .error (.notADate "end" range.finish fault)
  inverted : ∀ a b : Date, a.NamedBy range.start → b.NamedBy range.finish → b < a →
    check range.start range.finish most = .error (.inverted a b)

/-- **Ranges are judged by the days of the calendar.** -/
theorem judged_range (range : DateRange) (most : Int) : Judged range most where
  ok_iff _ := check_eq_ok_iff
  finite s := Date.finite_between s.first s.last
  days s := s.ncard_dates.symm
  tooLong_iff _ := check_tooLong_iff
  invalid_iff := check_invalid_iff
  start h := by
    obtain ⟨fault, hfault⟩ := exists_readBound_error "start" h
    exact ⟨fault, by rw [check, hfault]⟩
  finish a ha h := by
    obtain ⟨fault, hfault⟩ := exists_readBound_error "end" h
    exact ⟨fault, by rw [check, readBound_eq_ok_iff_namedBy.2 ha, hfault]⟩
  inverted a b ha hb hlt := by
    rw [check, readBound_eq_ok_iff_namedBy.2 ha, readBound_eq_ok_iff_namedBy.2 hb]
    exact dif_pos hlt

/-- The last days of a February in a leap year. -/
example : (check "2024-02-28" "2024-03-01" 3).toOption.map days = some 3 := by decide

end Span

end MetricQuery
