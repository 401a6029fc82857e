/-!
# Lines

A text that ends in a line break is the line before it.
-/

namespace MetricQuery.Text

/-- The text without one final line break. -/
def dropFinalNewline (cs : List Char) : List Char :=
  if cs.getLast? = some '\n' then cs.dropLast else cs

/-- The text before the last `mark`, if there is one, and the text after it. -/
def splitLast (mark : Char) (cs : List Char) : Option (List Char) × List Char :=
  let after := (cs.reverse.takeWhile (· != mark)).reverse
  match cs.reverse.dropWhile (· != mark) with
  | [] => (none, after)
  | _ :: before => (some before.reverse, after)

end MetricQuery.Text
