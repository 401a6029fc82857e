/-!
# White space and blanks

`isWhite` is the Unicode property of white space. A text is *blank* when all its characters are
white space or information separators.
-/

namespace MetricQuery.Text

/-- The Unicode property of white space. -/
def isWhite (c : Char) : Bool :=
  let n := c.toNat
  (0x09 ≤ n && n ≤ 0x0D) || n == 0x20 || n == 0x85 || n == 0xA0 || n == 0x1680 ||
    (0x2000 ≤ n && n ≤ 0x200A) || n == 0x2028 || n == 0x2029 || n == 0x202F || n == 0x205F ||
    n == 0x3000

/-- White space, or one of the four information separators `U+001C` to `U+001F`. -/
def isBlankChar (c : Char) : Bool :=
  isWhite c || (0x1C ≤ c.toNat && c.toNat ≤ 0x1F)

/-- No character but blanks; the empty text is blank. -/
def isBlank (s : String) : Bool := s.toList.all isBlankChar

/-- The text without characters of a kind at either end. -/
def trim (kind : Char → Bool) (cs : List Char) : List Char :=
  ((cs.dropWhile kind).reverse.dropWhile kind).reverse

/-- The text without white space at either end. -/
def trimWhite (cs : List Char) : List Char := trim isWhite cs

end MetricQuery.Text
