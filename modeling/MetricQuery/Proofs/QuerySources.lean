import MetricQuery.Proofs.Supplied

/-!
# Where the text of a query comes from

**Theorem (`Compilation.source_mem`).** The texts that the statement of a query takes in are among
those of `querySources`: the names of columns in the settings, the texts and slugs of the resolved
definitions, and the slugs of the sort keys in the plan.
-/

namespace MetricQuery

open Sql

/-- The texts of others that a query for these definitions may take in: names of columns, texts and
slugs of definitions, slugs of sort keys. -/
def querySources (settings : Settings) (request : Request) (verdict : Verdict) : List String :=
  [settings.tenantColumn, settings.locationColumn, settings.timeColumn] ++
    verdict.metrics.flatMap (fun m =>
      [m.slug, m.expression.text, m.table.text] ++ (m.condition.map SqlText.text).toList) ++
    verdict.dimensions.flatMap (fun d => [d.slug, d.expression.text, d.table.text]) ++
    (request.plan.sort.getD []).map SortKey.slug

variable {settings : Settings} {request : Request} {verdict : Verdict}

theorem name_mem_querySources {n : String} (hn : n ∈ queryNames settings request verdict) :
    n ∈ querySources settings request verdict := by
  simp only [queryNames, querySources, List.mem_append, List.mem_flatMap, List.mem_map] at hn ⊢
  obtain ((hn | ⟨m, hm, hn⟩) | ⟨d, hd, rfl⟩) | hn := hn
  · exact .inl (.inl (.inl hn))
  · refine .inl (.inl (.inr ⟨m, hm, .inl ?_⟩))
    obtain rfl | rfl : n = m.slug ∨ n = m.table.text := by simpa using hn
    · simp
    · simp
  · exact .inl (.inr ⟨d, hd, by simp⟩)
  · exact .inr hn

theorem text_mem_querySources {t : SqlText} (ht : verdict.Supplies t) :
    t.text ∈ querySources settings request verdict := by
  simp only [querySources, List.mem_append, List.mem_flatMap]
  obtain (⟨m, hm, rfl⟩ | ⟨d, hd, rfl⟩) | ⟨-, m, hfirst, hm⟩ := ht
  · exact .inl (.inl (.inr ⟨m, hm, by simp⟩))
  · exact .inl (.inr ⟨d, hd, by simp⟩)
  · exact .inl (.inl (.inr ⟨m, List.mem_of_find?_eq_some hfirst, by simp [hm]⟩))

theorem Compilation.source_mem {registry : Registry} {q : Query}
    (c : Compilation registry settings request q) {t : String}
    (ht : t ∈ q.statement.sources) : t ∈ querySources settings request c.verdict := by
  obtain hn | ⟨f, hf, rfl⟩ := Statement.source_cases ht
  · exact name_mem_querySources (c.name_mem hn)
  · exact text_mem_querySources (c.supplies hf)

end MetricQuery
