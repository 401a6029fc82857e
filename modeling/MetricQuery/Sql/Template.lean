import MetricQuery.Text.Blank

/-!
# Templates

A statement is first written as a template, with a hole `%(name)s` for each of its values. Then
every hole is filled with its number: `$1` for the first, `$2` for the next.

**Names.** A name says what the value is compared with, as far as that can stand in a name, and how
many holes of that name there are up to this one: `tenant_id_1`. So no two holes have the same name,
those of `t.amount` and `t_amount` included: they are `t_amount_1` and `t_amount_2`. Names show in a
filled template only where other text holds `%(`.

**Filling.** Holes are looked for in the whole template from left to right, and the first closing
bracket after `%(` ends a name. A `%(` in other text can therefore take in the hole that follows
it. What then stands between the brackets is no hole's name, and all of it stays as it is.
-/

namespace MetricQuery.Sql

/-! ## Names -/

/-- Characters that no name holds. -/
def isGap (c : Char) : Bool := c == '%' || c == '(' || c == ')' || c == ' ' || c == '$'

/-- Every run of characters that no name holds becomes one `_`. -/
def joinGaps : List Char → List Char
  | [] => []
  | c :: cs =>
    if isGap c then if cs.head?.any isGap then joinGaps cs else '_' :: joinGaps cs
    else c :: joinGaps cs

/-- How a character is written in a name. -/
def nameChar (c : Char) : Char :=
  if c = ':' then 'C' else if c = '.' ∨ c = '[' ∨ c = ']' then '_' else c

/-- What the names of holes that belong to a text begin with. -/
def stemOf (text : String) : List Char :=
  (Text.trim (· == '_') (joinGaps text.toList)).map nameChar

/-- The most characters of a name that is not cut. -/
def longestName : Nat := 57

/-- The stems of the names given so far, and how many of the names were cut. -/
structure Naming where
  stems : List (List Char) := []
  cuts : Nat := 0

namespace Naming

/-- The stem, and its number among those that equal it. -/
def fullName (g : Naming) (stem : List Char) : List Char :=
  stem ++ '_' :: (toString (g.stems.count stem + 1)).toList

/-- The next name. One that is too long is cut, and numbered in hexadecimal among those cut. -/
def name (g : Naming) (stem : List Char) : List Char :=
  let full := g.fullName stem
  if full.length ≤ longestName then full
  else full.take longestName ++ '_' :: Nat.toDigits 16 (g.cuts + 1)

/-- The names given after the next one. -/
def add (g : Naming) (stem : List Char) : Naming where
  stems := stem :: g.stems
  cuts := if (g.fullName stem).length ≤ longestName then g.cuts else g.cuts + 1

end Naming

/-! ## Holes -/

/-- The hole of a name. -/
def hole (name : List Char) : List Char := '%' :: '(' :: name ++ [')', 's']

/-- The name of the hole that a text begins with. -/
def holeName? : List Char → Option (List Char)
  | '%' :: '(' :: cs =>
    match cs.dropWhile (· != ')') with
    | _ :: 's' :: _ => some (cs.takeWhile (· != ')')) |>.filter (· ≠ [])
    | _ => none
  | _ => none

/-- What stands for the hole of a name: its number, or the hole itself if `names` lacks it. -/
def filled (names : List (List Char)) (name : List Char) : List Char :=
  match names.idxOf? name with
  | some i => '$' :: (toString (i + 1)).toList
  | none => hole name

/-- A template with its holes filled, after passing over `skip` characters. -/
def fill (names : List (List Char)) : Nat → List Char → List Char
  | _, [] => []
  | skip + 1, _ :: cs => fill names skip cs
  | 0, c :: cs =>
    match holeName? (c :: cs) with
    | some name => filled names name ++ fill names (name.length + 3) cs
    | none => c :: fill names 0 cs

end MetricQuery.Sql
