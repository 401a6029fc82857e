import MetricQuery.Calendar.Span
import MetricQuery.Record.Issue

/-!
# Failures

Why a request gives no query. A `CompileError` is an answer to the caller and has one of six codes;
the other failures say that the registry, a comparison or a pattern is not fit for use.
-/

namespace MetricQuery

/-- The kinds of errors that callers tell apart. -/
inductive ErrorCode where
  | noMetrics
  | invalidPlan
  | planValidationError
  | invalidDateRange
  | dateRangeTooLarge
  | filterEmptyValues
  deriving DecidableEq, Repr

namespace ErrorCode

def name : ErrorCode → String
  | noMetrics => "NO_METRICS"
  | invalidPlan => "INVALID_PLAN"
  | planValidationError => "PLAN_VALIDATION_ERROR"
  | invalidDateRange => "INVALID_DATE_RANGE"
  | dateRangeTooLarge => "DATE_RANGE_TOO_LARGE"
  | filterEmptyValues => "FILTER_EMPTY_VALUES"

def all : List ErrorCode :=
  [noMetrics, invalidPlan, planValidationError, invalidDateRange, dateRangeTooLarge,
    filterEmptyValues]

/-- An error of this code on one line. -/
def report (code : ErrorCode) (message : String) : String := "[" ++ code.name ++ "] " ++ message

end ErrorCode

def SpanFault.code : SpanFault → ErrorCode
  | notADate .. => .invalidDateRange
  | inverted .. => .invalidDateRange
  | tooLong .. => .dateRangeTooLarge

/-- Why a request is turned down. -/
inductive CompileError where
  /-- The request is no record of the right form; `title` is that record. -/
  | invalidPlan (title : String) (issues : List Issue)
  | noMetrics
  /-- The registry refused the plan. -/
  | refused (reason : String)
  /-- The registry accepted the plan but gave no metric for it. -/
  | nothingResolved
  | dateRange (fault : SpanFault)
  /-- A filter allows none of no values. -/
  | emptyChoice (slug : String)
  deriving DecidableEq

namespace CompileError

def code : CompileError → ErrorCode
  | invalidPlan .. => .invalidPlan
  | noMetrics => .noMetrics
  | refused _ => .planValidationError
  | nothingResolved => .planValidationError
  | dateRange fault => fault.code
  | emptyChoice _ => .filterEmptyValues

def message : CompileError → String
  | invalidPlan title issues => "Invalid query plan: " ++ Issue.headline issues title
  | noMetrics => "At least one metric is required"
  | refused reason => reason
  | nothingResolved => "Registry resolved no metrics for the plan"
  | dateRange fault => fault.message
  | emptyChoice slug => s!"Filter on '{slug}' uses 'in' with no values"

end CompileError

/-- Why there is no query. -/
inductive Failure where
  | compile (error : CompileError)
  /-- Text of the registry that lacks the mark of trust. -/
  | untrustedSql
  /-- An order comparison with a truth value. -/
  | unordered
  /-- A pattern from a value with a number that is too long to be written out. -/
  | unwritten
  /-- The registry failed, with a text of its own. -/
  | registry (text : String)
  deriving DecidableEq

def Failure.message : Failure → String
  | compile error => error.message
  | untrustedSql => "Only registry-owned SQL may be rendered as text"
  | unordered =>
    "Only '=', '!=', 'is_()', 'is_not()', 'is_distinct_from()', 'is_not_distinct_from()' " ++
      "operators can be used with None/True/False"
  | unwritten =>
    "Exceeds the limit (4300 digits) for integer string conversion; use " ++
      "sys.set_int_max_str_digits() to increase the limit"
  | registry text => text

end MetricQuery
