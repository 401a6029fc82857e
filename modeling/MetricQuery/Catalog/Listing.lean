import MetricQuery.Catalog.Basic
import MetricQuery.Json

/-!
# Listings of definitions

Every field of a definition, under its name in the listings of a catalog. SQL text that carries the
mark of trust is also listed by itself.
-/

namespace MetricQuery

/-- A list of texts. -/
def Json.ofTexts (texts : List String) : Json := .arr (texts.map .str)

namespace Metric

def listing (m : Metric) : Members :=
  [("slug", .str m.slug), ("sql_expression", .str m.expression.text),
    ("sql_table", .str m.table.text), ("sql_filter", .orNull (fun t => .str t.text) m.condition),
    ("display_name", .str m.displayName), ("description", .str m.description),
    ("domain", .str m.domain), ("data_type", .str m.type.name),
    ("format_pattern", .orNull .str m.format), ("unit", .orNull .str m.unit),
    ("requires_dimensions", .ofTexts m.requires), ("incompatible_with", .ofTexts m.incompatible),
    ("is_active", .bool m.active), ("is_experimental", .bool m.experimental)]

/-- The SQL texts of the metric, by the names of their fields. -/
def sqlTexts (m : Metric) : List (String × SqlText) :=
  [("sql_expression", m.expression), ("sql_table", m.table)] ++
    (m.condition.map fun t => ("sql_filter", t)).toList

end Metric

namespace Dimension

def listing (d : Dimension) : Members :=
  [("slug", .str d.slug), ("sql_expression", .str d.expression.text),
    ("sql_table", .str d.table.text), ("sql_data_type", .str d.type.name),
    ("is_time_dimension", .bool d.isTime),
    ("time_granularities", .orNull .ofTexts (d.time.bind TimeAxis.buckets)),
    ("display_name", .str d.displayName), ("is_active", .bool d.active)]

/-- The SQL texts of the dimension, by the names of their fields. -/
def sqlTexts (d : Dimension) : List (String × SqlText) :=
  [("sql_expression", d.expression), ("sql_table", d.table)]

end Dimension

def Lens.listing (l : Lens) : Members :=
  [("slug", .str l.slug), ("display_name", .str l.displayName),
    ("allowed_metrics", .orNull .ofTexts l.metrics),
    ("allowed_dimensions", .orNull .ofTexts l.dimensions), ("is_active", .bool l.active)]

/-- The texts that carry the mark of trust, as they are listed. -/
def SqlText.listings (texts : List (String × SqlText)) : Members :=
  (texts.filter fun t => t.2.trusted).map fun t => (t.1, .str t.2.listing)

end MetricQuery
