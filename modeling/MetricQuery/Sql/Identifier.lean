import MetricQuery.Text.Line

/-!
# Identifiers

A name stands bare when it reads as itself: it is no reserved word, begins with neither a digit nor
`$`, and holds lower-case letters, digits, `_` and `$` only. Any other name is quoted, with every
quote inside written twice; the empty name, too, stands between quotes. Names of output columns are
always quoted.
-/

namespace MetricQuery.Sql

def reservedWords : List String :=
  ["all", "analyse", "analyze", "and", "any", "array", "as", "asc", "asymmetric", "authorization",
    "between", "binary", "both", "case", "cast", "check", "collate", "column", "constraint",
    "create", "cross", "current_catalog", "current_date", "current_role", "current_schema",
    "current_time", "current_timestamp", "current_user", "default", "deferrable", "desc",
    "distinct", "do", "else", "end", "except", "false", "fetch", "for", "foreign", "freeze", "from",
    "full", "grant", "group", "having", "ilike", "in", "initially", "inner", "intersect", "into",
    "is", "isnull", "join", "leading", "left", "like", "limit", "localtime", "localtimestamp",
    "natural", "new", "not", "notnull", "null", "of", "off", "offset", "old", "on", "only", "or",
    "order", "outer", "over", "overlaps", "placing", "primary", "references", "returning", "right",
    "select", "session_user", "similar", "some", "symmetric", "table", "then", "to", "trailing",
    "true", "union", "unique", "user", "using", "variadic", "verbose", "when", "where", "window",
    "with"]

/-! ## Quoted names -/

/-- Every quote is written twice. -/
def doubleQuotes : List Char → List Char
  | [] => []
  | c :: rest => if c = '"' then '"' :: '"' :: doubleQuotes rest else c :: doubleQuotes rest

/-- The characters of a name between quotes. -/
def quotedChars (cs : List Char) : List Char := '"' :: doubleQuotes cs ++ ['"']

/-- A name between quotes. -/
def quotedName (name : String) : String := String.ofList (quotedChars name.toList)

/-! ## Bare names -/

/-- A character of bare names. Letters are compared without regard to case, so `ı` and `ſ`, whose
capitals are `I` and `S`, count as letters. -/
def isBareChar (c : Char) : Bool :=
  c.isLower || c.isDigit || c == '_' || c == '$' || c == 'ı' || c == 'ſ'

/-- A name that reads as itself; a final line break does no harm. -/
def isBareName (name : String) : Bool :=
  match Text.dropFinalNewline name.toList with
  | [] => false
  | c :: rest =>
    !(c.isDigit || c == '$') && (c :: rest).all isBareChar && !reservedWords.contains name

/-- A name, quoted when it has to be. -/
def identifier (name : String) : String := if isBareName name then name else quotedName name

/-- The name of a table: what stands before its last point, if anything, is its schema. -/
def tableName (name : String) : String :=
  let (schema, table) := Text.splitLast '.' name.toList
  let table := identifier (String.ofList table)
  match schema with
  | some (c :: rest) => identifier (String.ofList (c :: rest)) ++ "." ++ table
  | _ => table

end MetricQuery.Sql
