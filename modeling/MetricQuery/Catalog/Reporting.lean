import MetricQuery.Registry

/-!
# The reporting catalog

The catalog used when no other is given: sales, items and golf rounds.
-/

namespace MetricQuery.Reporting

/-! ## Metrics -/

def netSales : Metric where
  slug := "net_sales"
  displayName := "Net Sales"
  description := "Sales after discounts, voids and returns"
  expression := ⟨"SUM(net_sales)", true⟩
  table := ⟨"rm_daily_sales", true⟩
  type := .currency
  format := some "$0,0.00"
  unit := some "USD"

def grossSales : Metric where
  slug := "gross_sales"
  displayName := "Gross Sales"
  description := "Sales before discounts"
  expression := ⟨"SUM(gross_sales)", true⟩
  table := ⟨"rm_daily_sales", true⟩
  type := .currency
  format := some "$0,0.00"
  unit := some "USD"

def orderCount : Metric where
  slug := "order_count"
  displayName := "Order Count"
  description := "Number of closed orders"
  expression := ⟨"SUM(order_count)", true⟩
  table := ⟨"rm_daily_sales", true⟩
  format := some "0,0"

def averageOrderValue : Metric where
  slug := "avg_order_value"
  displayName := "Average Order Value"
  description := "Net sales divided by order count"
  expression := ⟨"SUM(net_sales) / NULLIF(SUM(order_count), 0)", true⟩
  table := ⟨"rm_daily_sales", true⟩
  type := .currency
  format := some "$0,0.00"
  unit := some "USD"

def discountTotal : Metric where
  slug := "discount_total"
  displayName := "Discounts"
  description := "Total discounts applied"
  expression := ⟨"SUM(discount_total)", true⟩
  table := ⟨"rm_daily_sales", true⟩
  type := .currency
  format := some "$0,0.00"
  unit := some "USD"

def itemQuantitySold : Metric where
  slug := "item_quantity_sold"
  displayName := "Items Sold"
  description := "Units sold per catalog item"
  expression := ⟨"SUM(quantity_sold)", true⟩
  table := ⟨"rm_item_sales", true⟩
  format := some "0,0"

def itemRevenue : Metric where
  slug := "item_revenue"
  displayName := "Item Revenue"
  description := "Gross revenue per catalog item"
  expression := ⟨"SUM(gross_revenue)", true⟩
  table := ⟨"rm_item_sales", true⟩
  type := .currency
  format := some "$0,0.00"
  unit := some "USD"

def roundsPlayed : Metric where
  slug := "rounds_played"
  displayName := "Rounds Played"
  description := "Completed golf rounds"
  domain := "golf"
  expression := ⟨"SUM(rounds_played)", true⟩
  table := ⟨"rm_golf_tee_time_fact", true⟩
  format := some "0,0"

def memberRounds : Metric where
  slug := "member_rounds"
  displayName := "Member Rounds"
  description := "Completed rounds played by members"
  domain := "golf"
  expression := ⟨"SUM(rounds_played)", true⟩
  table := ⟨"rm_golf_tee_time_fact", true⟩
  condition := some ⟨"player_type = 'member'", true⟩
  format := some "0,0"

def utilizationRate : Metric where
  slug := "utilization_rate"
  displayName := "Tee Sheet Utilization"
  description := "Booked slots over available slots"
  domain := "golf"
  expression := ⟨"SUM(booked_slots)::numeric / NULLIF(SUM(available_slots), 0)", true⟩
  table := ⟨"rm_golf_tee_time_demand", true⟩
  type := .percent
  format := some "0.0%"
  requires := ["date"]

/-! ## Dimensions -/

def date : Dimension where
  slug := "date"
  displayName := "Date"
  expression := ⟨"business_date", true⟩
  table := ⟨"rm_daily_sales", true⟩
  type := .date
  time := some ⟨some ["day", "week", "month"]⟩

def location : Dimension where
  slug := "location"
  displayName := "Location"
  expression := ⟨"location_id", true⟩
  table := ⟨"rm_daily_sales", true⟩

def dayOfWeek : Dimension where
  slug := "day_of_week"
  displayName := "Day of Week"
  expression := ⟨"EXTRACT(ISODOW FROM business_date)", true⟩
  table := ⟨"rm_daily_sales", true⟩
  type := .numeric

def item : Dimension where
  slug := "item"
  displayName := "Item"
  expression := ⟨"catalog_item_name", true⟩
  table := ⟨"rm_item_sales", true⟩

def category : Dimension where
  slug := "category"
  displayName := "Category"
  expression := ⟨"category_name", true⟩
  table := ⟨"rm_item_sales", true⟩

def golfCourse : Dimension where
  slug := "golf_course"
  displayName := "Course"
  expression := ⟨"course_id", true⟩
  table := ⟨"rm_golf_tee_time_fact", true⟩

/-! ## Lenses -/

def golfOperations : Lens where
  slug := "golf_operations"
  displayName := "Golf Operations"
  metrics := some ["rounds_played", "member_rounds", "utilization_rate"]
  dimensions := some ["date", "golf_course"]

def sales : Lens where
  slug := "sales"
  displayName := "Sales"
  metrics := some
    ["net_sales", "gross_sales", "order_count", "avg_order_value", "discount_total"]

/-- The reporting catalog. -/
def catalog : Catalog :=
  .ofLists
    [netSales, grossSales, orderCount, averageOrderValue, discountTotal, itemQuantitySold,
      itemRevenue, roundsPlayed, memberRounds, utilizationRate]
    [date, location, dayOfWeek, item, category, golfCourse]
    [golfOperations, sales]

end MetricQuery.Reporting
