import MetricQuery.Catalog.Listing
import MetricQuery.Catalog.Reporting
import MetricQuery.Explanation
import MetricQuery.Proofs.AddedMetrics
import MetricQuery.Proofs.BoundOperands
import MetricQuery.Proofs.CachedSettings
import MetricQuery.Proofs.DateTexts
import MetricQuery.Proofs.DayCount
import MetricQuery.Proofs.Explained
import MetricQuery.Proofs.LastDefinitions
import MetricQuery.Proofs.Lenses
import MetricQuery.Proofs.Noninterference
import MetricQuery.Proofs.OperandShapes
import MetricQuery.Proofs.Patterns
import MetricQuery.Proofs.Placeholders
import MetricQuery.Proofs.QuietLogs
import MetricQuery.Proofs.QuotedTokens
import MetricQuery.Proofs.Repeats
import MetricQuery.Proofs.Reports
import MetricQuery.Proofs.Respelling
import MetricQuery.Proofs.RoundTrip
import MetricQuery.Proofs.RowOrder
import MetricQuery.Proofs.Taxonomy
import MetricQuery.Proofs.TenantScope
import MetricQuery.Proofs.TrustGate
import MetricQuery.Proofs.Warnings
import MetricQuery.Query.Compile
import MetricQuery.Settings.Cache
