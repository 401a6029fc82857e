import MetricQuery.Text.Invisible

/-!
# Quoted text

`quoted s` is `s` between quotation marks on one line: single marks, unless `s` holds a single mark
and no double one. The backslash and the single mark inside single marks are escaped, and so is
every character that would not show.
-/

namespace MetricQuery.Text

/-- The last `width` hexadecimal digits of `n`, in lower case. -/
def hexDigits : Nat → Nat → List Char
  | 0, _ => []
  | width + 1, n => hexDigits width (n / 16) ++ [Nat.digitChar (n % 16)]

/-- The escape of a character that would not show: the shortest of two, four or eight digits. -/
def escapeInvisible (c : Char) : List Char :=
  if c = '\t' then ['\\', 't']
  else if c = '\n' then ['\\', 'n']
  else if c = '\r' then ['\\', 'r']
  else if c.toNat < 0x100 then '\\' :: 'x' :: hexDigits 2 c.toNat
  else if c.toNat < 0x10000 then '\\' :: 'u' :: hexDigits 4 c.toNat
  else '\\' :: 'U' :: hexDigits 8 c.toNat

/-- A character as it stands between two marks `mark`. -/
def escapeChar (mark c : Char) : List Char :=
  if c = mark ∨ c = '\\' then ['\\', c]
  else if isInvisible c then escapeInvisible c
  else [c]

/-- The mark that encloses a text. -/
def markFor (cs : List Char) : Char :=
  if cs.contains '\'' && !cs.contains '"' then '"' else '\''

/-- The text between quotation marks. -/
def quoted (s : String) : String :=
  let mark := markFor s.toList
  String.ofList (mark :: s.toList.flatMap (escapeChar mark) ++ [mark])

end MetricQuery.Text
