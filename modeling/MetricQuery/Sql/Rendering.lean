import MetricQuery.Sql.Identifier
import MetricQuery.Sql.Statement
import MetricQuery.Sql.Template

/-!
# Written statements

A statement is written as a sequence of pieces, each a text or a hole with a value for it. The
pieces with a name for every hole are the template of the statement, and the template with its holes
filled is its text. The values of the holes, in order, are its parameters.

**Labels.** An output column is labelled with its name. An empty name is no name, so a column that
has it gets a label made from the text of its value: `total_1`. Labels are counted among themselves,
the names of holes begin anew.
-/

namespace MetricQuery.Sql

/-- A part of a written statement. -/
inductive Piece where
  | text (s : String)
  /-- A hole for a value, with a name that begins with `stem`. -/
  | hole (stem : List Char) (value : Json)

namespace Piece

/-- The template of pieces, after the names `g`. -/
def template (g : Naming) : List Piece → List Char
  | [] => []
  | text s :: rest => s.toList ++ template g rest
  | hole stem _ :: rest => Sql.hole (g.name stem) ++ template (g.add stem) rest

/-- The names of the holes, in order. -/
def names (g : Naming) : List Piece → List (List Char)
  | [] => []
  | text _ :: rest => names g rest
  | hole stem _ :: rest => g.name stem :: names (g.add stem) rest

/-- The values of the holes, in order. -/
def values : List Piece → List Json
  | [] => []
  | text _ :: rest => values rest
  | hole _ v :: rest => v :: values rest

/-- Sequences of pieces with a text between any two. -/
def join (separator : String) : List (List Piece) → List Piece
  | [] => []
  | [ps] => ps
  | ps :: rest => ps ++ text separator :: join separator rest

end Piece

open Piece

/-! ## The parts of a statement -/

def Expr.text : Expr → String
  | fragment f => f.text
  | bucketed b f => "DATE_TRUNC('" ++ b.name ++ "', " ++ f.text ++ ")"

/-- What an expression is called: the text of the registry, or the function that cuts time. -/
def Expr.title : Expr → String
  | fragment f => f.text
  | bucketed .. => "DATE_TRUNC"

/-- What the label of a column without a name begins with. -/
def labelStem (title : String) : List Char := joinGaps title.toList

/-- The labels of columns with these titles and names, after the labels `g`. A name is always
quoted, a label that is made up only when it has to be. -/
def labels (g : Naming) : List (String × String) → List String
  | [] => []
  | (title, name) :: rest =>
    if name = "" then
      identifier (String.ofList (g.name (labelStem title))) :: labels (g.add (labelStem title)) rest
    else quotedName name :: labels g rest

/-- The column under a label. -/
def Column.text (c : Column) (label : String) : String := c.expr.text ++ " AS " ++ label

def Subject.text : Subject → String
  | column name => identifier name
  | fragment f => f.text

/-- What the names of holes for values of the subject begin with. -/
def Subject.stem : Subject → List Char
  | column name => stemOf name
  | fragment f => stemOf f.text

/-- What the names of other holes begin with. -/
def plainStem : List Char := "param".toList

def Comparison.symbol : Comparison → String
  | equal => " = "
  | atLeast => " >= "
  | atMost => " <= "

def Predicate.pieces : Predicate → List Piece
  | compare s c v => [.text (s.text ++ c.symbol), .hole s.stem v]
  | isNull s => [.text (s.text ++ " IS NULL")]
  | isTruth s b => [.text (s.text ++ if b then " = true" else " = false")]
  | between s low high =>
    [.text (s.text ++ " BETWEEN "), .hole s.stem low, .text " AND ", .hole s.stem high]
  | oneOf s choices =>
    .text (s.text ++ " IN (") :: join ", " (choices.map fun v => [.hole plainStem v]) ++
      [.text ")"]
  | like s pattern => [.text (s.text ++ " ILIKE "), .hole s.stem (.str pattern)]
  | fragment f => [.text ("(" ++ f.text ++ ")")]

/-- A sort key names an output column. -/
def sortText (k : SortKey) : String := quotedName k.slug ++ " " ++ k.direction.keyword

namespace Statement

/-- The labels of the output columns. -/
def labels (s : Statement) : List String :=
  Sql.labels {} (s.columns.map fun c => (c.expr.title, c.name))

/-- The output columns with their labels. -/
def columnTexts (s : Statement) : List String := s.columns.zipWith Column.text s.labels

/-- The condition on rows. -/
def conditionPieces (s : Statement) : List Piece :=
  join " AND " (s.conditions.map Predicate.pieces)

/-- A clause with a list of texts; without any it is left out. An empty text keeps its place in the
list, where a writer that leaves out empty parts would drop it. No definition is expected to have an
empty expression. -/
def clause (keyword : String) (texts : List String) : List Piece :=
  if texts.isEmpty then [] else [.text (keyword ++ ", ".intercalate texts)]

def pieces (s : Statement) : List Piece :=
  .text ("SELECT " ++ ", ".intercalate s.columnTexts) ::
    .text (" \nFROM " ++ tableName s.table ++ " \nWHERE ") ::
    s.conditionPieces ++
    clause " GROUP BY " (s.groups.map Expr.text) ++
    clause " ORDER BY " (s.order.map sortText) ++
    [.text " \n LIMIT ", .hole plainStem (.int s.limit)]

/-- The text of the statement, with numbered placeholders. -/
def text (s : Statement) : String :=
  String.ofList (fill (names {} s.pieces) 0 (template {} s.pieces))

/-- The parameters, in the order of the placeholders. -/
def params (s : Statement) : List Json := values s.pieces

end Statement

end MetricQuery.Sql
