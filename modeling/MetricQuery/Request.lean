import MetricQuery.Plan.Record
import MetricQuery.Text.Blank

/-!
# Requests

A `Request` is a plan with the context it runs in: the tenant whose rows it may see, and optionally
a location, a bound on the span of dates, and a lens.
-/

namespace MetricQuery

open Record

/-- A plan and the context it runs in. -/
structure Request where
  plan : Plan
  tenant : String
  location : Option String := none
  maxDays : Option Int := none
  lens : Option String := none

namespace Request

def title : String := "CompilerInput"

def planKey : Key := .word "plan"
def tenantKey : Key := ⟨"tenantId", "tenant_id"⟩
def locationKey : Key := ⟨"locationId", "location_id"⟩
def maxDaysKey : Key := ⟨"maxDateRangeDays", "max_date_range_days"⟩
def lensKey : Key := ⟨"lensSlug", "lens_slug"⟩

def keys : List Key := [planKey, tenantKey, locationKey, maxDaysKey, lensKey]

/-- A tenant has a name that is more than blanks. -/
def readTenant (v : Json) : Checked String :=
  (Read.text v).andThen fun s =>
    if Text.isBlank s then .fail (.againstRule "tenantId is required") else .accepted s

def read : Json → Checked Request :=
  Record.read title keys fun members =>
    Request.mk <$> required planKey Plan.read members
      <*> required tenantKey readTenant members
      <*> field locationKey none (Read.optional Read.text) members
      <*> field maxDaysKey none (Read.optional Read.positive) members
      <*> field lensKey none (Read.optional Read.text) members

def write (style : Style) (r : Request) : Json :=
  Record.write style
    [(planKey, r.plan.write style), (tenantKey, .str r.tenant),
      (locationKey, .orNull .str r.location), (maxDaysKey, .orNull .int r.maxDays),
      (lensKey, .orNull .str r.lens)]

end Request

end MetricQuery
