import MetricQuery.Catalog.Objection
import MetricQuery.Log

/-!
# Registries

A registry judges plans: it resolves the slugs of a plan to definitions or says why it does not.
What is behind it is its own affair, so a verdict is taken as it comes, and a registry may fail
altogether. `Catalog.registry` is the registry that answers from a catalog.
-/

namespace MetricQuery

/-- What a registry makes of a plan. -/
structure Verdict where
  valid : Bool
  errors : List String := []
  metrics : List Metric := []
  dimensions : List Dimension := []
  deriving DecidableEq, Repr

/-- A call to a registry: its verdict, or the text of its failure, and what it logs. -/
structure Consultation where
  answer : Except String Verdict
  log : List LogEvent := []

/-- Something that judges plans, seen through a lens or not. -/
structure Registry where
  consult : Plan → Option String → Consultation

namespace Catalog

/-- The verdict of a catalog: valid exactly when there is no objection. -/
def verdict (c : Catalog) (p : Plan) (lens : Option String) : Verdict :=
  let objections := c.objections p lens
  if objections.isEmpty then
    { valid := true, metrics := c.selectedMetrics p, dimensions := c.selectedDimensions p }
  else { valid := false, errors := objections.map Objection.message }

/-- The registry that answers from a catalog and logs its objections. -/
def registry (c : Catalog) : Registry where
  consult p lens :=
    let verdict := c.verdict p lens
    { answer := .ok verdict
      log := if verdict.valid then [] else [.objected verdict.errors] }

end Catalog

/-- The registry that gives the same answer to every plan. -/
def Registry.constant (answer : Except String Verdict) : Registry where
  consult _ _ := { answer }

end MetricQuery
