import MetricQuery.Proofs.Numbering
import MetricQuery.Proofs.Steps

/-!
# Labels of columns

Each output column is written under a label. A name is a label as it is, between quotes. An empty
name is none, and then the label is made from the title of the expression and a number, and quoted
only when it has to be (`IsLabel`). Where no name is empty no label is made up (`labels_of_named`).
-/

namespace MetricQuery.Sql

/-- A label for a column with this title and name. -/
inductive IsLabel (title name : String) : String → Prop
  | named (hname : name ≠ "") : IsLabel title name (quotedName name)
  | numbered (g : Naming) (hname : name = "") :
      IsLabel title name (identifier (String.ofList (g.name (labelStem title))))

theorem IsLabel.eq_quotedName {title name label : String} (h : IsLabel title name label)
    (hname : name ≠ "") : label = quotedName name := by
  cases h with
  | named _ => rfl
  | numbered _ hempty => contradiction

theorem isLabel_labels (g : Naming) (columns : List (String × String)) :
    List.Forall₂ (fun c label => IsLabel c.1 c.2 label) columns (labels g columns) := by
  induction columns generalizing g with
  | nil => exact .nil
  | cons c columns ih =>
    obtain ⟨title, name⟩ := c
    unfold labels
    split_ifs with hname
    · exact .cons (.numbered g hname) (ih _)
    · exact .cons (.named hname) (ih g)

/-- A label that is made up holds no `%` and no `$`. -/
theorem gap_notMem_label {c : Char} (hc : isGap c = true) (g : Naming) (title : String) :
    c ∉ g.name (labelStem title) :=
  gap_notMem_name hc (gap_notMem_joinGaps hc title.toList)

namespace Statement

variable {s : Statement}

theorem isLabel_of_labels (s : Statement) :
    List.Forall₂ (fun c label => IsLabel c.expr.title c.name label) s.columns s.labels := by
  have hlabels := isLabel_labels {} (s.columns.map fun c => (c.expr.title, c.name))
  rwa [List.forall₂_map_left_iff] at hlabels

/-- Each column is written under a label of it. -/
theorem labelled_columnTexts (s : Statement) :
    List.Forall₂ (fun c t => ∃ label, IsLabel c.expr.title c.name label ∧ t = c.text label)
      s.columns s.columnTexts :=
  forall₂_zipWith s.isLabel_of_labels

theorem exists_of_mem_columnTexts {t : String} (h : t ∈ s.columnTexts) :
    ∃ c ∈ s.columns, ∃ label, IsLabel c.expr.title c.name label ∧ t = c.text label :=
  exists_left_of_forall₂ s.labelled_columnTexts h

end Statement

end MetricQuery.Sql
