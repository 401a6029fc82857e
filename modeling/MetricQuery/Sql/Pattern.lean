/-!
# Patterns

In a pattern `%` stands for any text and `_` for any character, unless a backslash comes before.
-/

namespace MetricQuery.Sql

/-- Characters as they match themselves in a pattern. -/
def escapeChars : List Char → List Char
  | [] => []
  | c :: rest =>
    if c = '\\' ∨ c = '%' ∨ c = '_' then '\\' :: c :: escapeChars rest else c :: escapeChars rest

/-- A text as it matches itself in a pattern. -/
def escapePattern (s : String) : String := String.ofList (escapeChars s.toList)

/-- The pattern of the texts in which `s` occurs. -/
def containsPattern (s : String) : String := "%" ++ escapePattern s ++ "%"

end MetricQuery.Sql
