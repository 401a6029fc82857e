import MetricQuery.Text.Quoted

/-!
# SQL text and fragments

`SqlText` is text that a registry hands out as SQL, with a mark that says whether the registry
vouches for it. A `Fragment` is such text with the mark set. Only fragments can stand in a
statement, so no text reaches one without the mark having been looked at.
-/

namespace MetricQuery

/-- Text meant as SQL, and whether the registry vouches for it. -/
structure SqlText where
  text : String
  trusted : Bool := true
  deriving DecidableEq, Repr

/-- SQL text that the registry vouches for. -/
structure Fragment where
  source : SqlText
  trusted : source.trusted = true

def Fragment.text (f : Fragment) : String := f.source.text

namespace SqlText

/-- The fragment, if the text carries the mark. -/
def fragment? (t : SqlText) : Option Fragment :=
  if h : t.trusted = true then some ⟨t, h⟩ else none

theorem fragment?_eq_none_iff {t : SqlText} : t.fragment? = none ↔ t.trusted = false := by
  simp [fragment?]

theorem source_of_fragment? {t : SqlText} {f : Fragment} (h : t.fragment? = some f) :
    f.source = t := by
  simp only [fragment?, Option.dite_none_right_eq_some, Option.some.injEq] at h
  obtain ⟨_, rfl⟩ := h
  rfl

/-- How trusted text is shown in listings. -/
def listing (t : SqlText) : String := "TrustedSql(" ++ Text.quoted t.text ++ ")"

end SqlText

end MetricQuery
