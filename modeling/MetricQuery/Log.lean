import MetricQuery.Json.Literal

/-!
# Log events

What is logged while a plan is compiled. Events name slugs, tables, warnings and numbers of rows,
and no value that a caller compares with.
-/

namespace MetricQuery

inductive LogLevel where
  | debug
  | info
  | warning
  deriving DecidableEq, Repr

def LogLevel.name : LogLevel → String
  | debug => "DEBUG"
  | info => "INFO"
  | warning => "WARNING"

/-- Something worth logging. -/
inductive LogEvent where
  | compiling (metrics dimensions : List String) (filters : Nat)
  /-- The catalog has objections. -/
  | objected (objections : List String)
  /-- The registry refused the plan. -/
  | refused (reason : String)
  | limitClamped (requested limit : Int)
  | warned (warnings : List String)
  | compiled (table : String) (parameters : Nat)
  deriving DecidableEq, Repr

namespace LogEvent

def level : LogEvent → LogLevel
  | compiling .. => .debug
  | objected _ => .debug
  | refused _ => .warning
  | limitClamped .. => .info
  | warned _ => .info
  | compiled .. => .debug

/-- Slugs in quotes, between brackets. -/
def slugList (slugs : List String) : String := bracketed (slugs.map Text.quoted)

def message : LogEvent → String
  | compiling metrics dimensions filters =>
    "Compiling plan: metrics=" ++ slugList metrics ++ " dimensions=" ++ slugList dimensions ++
      " filters=" ++ toString filters
  | objected objections => "Plan rejected by registry: " ++ "; ".intercalate objections
  | refused reason => "Registry rejected plan: " ++ reason
  | limitClamped requested limit => s!"Requested limit {requested} clamped to {limit}"
  | warned warnings =>
    "Plan compiled with " ++ toString warnings.length ++ " warning(s): " ++
      "; ".intercalate warnings
  | compiled table parameters =>
    s!"Compiled query against {table} with {parameters} parameter(s)"

end LogEvent

end MetricQuery
