import MetricQuery.Record.Fields
import MetricQuery.Record.Scalar
import MetricQuery.Settings.Lookup

/-!
# Settings

The limits that every query keeps, and the names of the columns that every reporting table has. All
limits are at least one (`Settings.Valid`), which `Settings.read` checks. A setting that is not
given keeps its standard value.
-/

namespace MetricQuery

/-- Limits and column names. -/
structure Settings where
  /-- The most days a range of dates may have, unless the request says otherwise. -/
  maxDays : Int := 365
  /-- The rows of a plan that sets no cap. -/
  defaultRows : Int := 10000
  /-- The most rows of any query. -/
  maxRows : Int := 50000
  tenantColumn : String := "tenant_id"
  locationColumn : String := "location_id"
  /-- The column that a range of dates applies to when no time dimension is selected. -/
  timeColumn : String := "business_date"
  deriving DecidableEq, Repr

namespace Settings

def title : String := "CompilerSettings"

/-- The limits allow something. -/
def Valid (s : Settings) : Prop := 1 ≤ s.maxDays ∧ 1 ≤ s.defaultRows ∧ 1 ≤ s.maxRows

/-- One setting, with its value for when it is not given. -/
def setting {α : Type} (arguments : Members) (env : Environment) (name : String) (absent : α)
    (read : Json → Checked α) : Checked α :=
  match (Lookup.ofArguments arguments).value? arguments env name with
  | some v => (read v).under (.key name)
  | none => .accepted absent

def read (arguments : Members) (env : Environment) : Checked Settings :=
  let default : Settings := {}
  Settings.mk
    <$> setting arguments env "default_max_date_range_days" default.maxDays Read.positive
    <*> setting arguments env "default_row_limit" default.defaultRows Read.positive
    <*> setting arguments env "absolute_max_rows" default.maxRows Read.positive
    <*> setting arguments env "tenant_column" default.tenantColumn Read.text
    <*> setting arguments env "location_column" default.locationColumn Read.text
    <*> setting arguments env "default_time_column" default.timeColumn Read.text

/-- The settings as a record. -/
def write (s : Settings) : Members :=
  [("default_max_date_range_days", .int s.maxDays), ("default_row_limit", .int s.defaultRows),
    ("absolute_max_rows", .int s.maxRows), ("tenant_column", .str s.tenantColumn),
    ("location_column", .str s.locationColumn), ("default_time_column", .str s.timeColumn)]

/-- The rows a query may return: the cap asked for, kept between one and the most allowed. -/
def rowLimit (requested : Option Int) (default ceiling : Int) : Int :=
  match requested with
  | none => min default ceiling
  | some n => max 1 (min n ceiling)

end Settings

end MetricQuery
