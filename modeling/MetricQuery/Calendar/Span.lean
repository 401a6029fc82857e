import MetricQuery.Calendar.Date
import MetricQuery.Json.Literal

/-!
# Spans of dates

A `Span` runs from its first day to its last, both included. `Span.check` reads the two bounds,
the first before the last, and refuses a span that is inverted or has too many days.
-/

namespace MetricQuery

/-- Why two bounds make no span. -/
inductive SpanFault where
  /-- A bound is not a date; `label` names the bound and `shown` is its text. -/
  | notADate (label shown : String) (fault : DateFault)
  | inverted (first last : Date)
  | tooLong (days : Nat) (most : Int)
  deriving DecidableEq

def SpanFault.message : SpanFault → String
  | notADate label shown fault => s!"Invalid {label} date '{shown}': " ++ fault.message
  | inverted first last => "Date range end " ++ last.iso ++ " is before start " ++ first.iso
  | tooLong days most =>
    s!"Date range spans {days} days; narrow it to {most} days or fewer"

/-- The days from `first` to `last`, both included. -/
structure Span where
  first : Date
  last : Date
  ordered : ¬ last < first

namespace Span

/-- The number of days. -/
def days (s : Span) : Nat := s.last.number + 1 - s.first.number

/-- Reads one bound of a span. -/
def readBound (label : String) (text : String) : Except SpanFault Date :=
  match Date.parse text with
  | .ok d => .ok d
  | .error fault => .error (.notADate label text fault)

/-- Reads a bound given as any JSON value: only a string can be a date. -/
def readBoundValue (label : String) : Json → Except SpanFault Date
  | .str text => readBound label text
  | v => .error (.notADate label v.display .shape)

/-- The span between two bounds, of at most `most` days. -/
def check (start finish : String) (most : Int) : Except SpanFault Span :=
  match readBound "start" start with
  | .error fault => .error fault
  | .ok first =>
    match readBound "end" finish with
    | .error fault => .error fault
    | .ok last =>
      if ordered : last < first then .error (.inverted first last)
      else
        let span : Span := ⟨first, last, ordered⟩
        if most < span.days then .error (.tooLong span.days most) else .ok span

end Span

end MetricQuery
