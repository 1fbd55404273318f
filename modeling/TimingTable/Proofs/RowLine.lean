import TimingTable.Report.Round
import TimingTable.Proofs.WellFormed
import TimingTable.Proofs.Text.Lines

/-!
# Row lines

The two forms of a report write a row as one line with its fields between bars; they differ only in
the spaces after a field, which are no part of a cell. So whatever the fields of a row hold, the
cells of its line are the cells of its fields (`cells_rowLine`). The fields of a well-formed row are
their own cells, and its line is read as the row that was written (`read_rowLine`).
-/

namespace TimingTable
open Text

/-- The row with its fields filled up to the widths of their columns. -/
def Row.padded (r : Row) : Row :=
  ⟨padRight Console.runtimeWidth r.runtime, padRight Console.timeWidth r.min,
    padRight Console.timeWidth r.max, padRight Console.timeWidth r.avg⟩

/-- The line of a row in a report of a given form. -/
def Form.rowLine : Form → Row → String
  | console => Console.rowLine
  | markdown => Markdown.rowLine

variable {r : Row}

theorem console_rowLine (r : Row) : Console.rowLine r = Markdown.rowLine r.padded := rfl

theorem allBlank_replicate_space (n : Nat) : AllBlank (List.replicate n ' ') := fun c hc => by
  rw [List.eq_of_mem_replicate hc]
  decide

theorem cells_padRight (width : Nat) (s : String) : cells (padRight width s).toList = cells s.toList := by
  rw [toList_padRight, cells_append_of_allBlank (allBlank_replicate_space _)]

theorem flatMap_cells_padded (r : Row) :
    r.padded.fields.flatMap (fun f => cells f.toList) = r.fields.flatMap fun f => cells f.toList := by
  simp [Row.padded, Row.fields, cells_padRight]

theorem cells_between_spaces (s : List Char) : cells (' ' :: (s ++ [' '])) = cells s := by
  have hspace : AllBlank [' '] := allBlank_replicate_space 1
  rw [← List.singleton_append, cells_append_of_allBlank_left hspace, cells_append_of_allBlank hspace]

theorem toList_markdown_rowLine (r : Row) :
    (Markdown.rowLine r).toList =
      [] ++ '|' :: ((' ' :: (r.runtime.toList ++ [' '])) ++ '|' :: ((' ' :: (r.min.toList ++ [' '])) ++
        '|' :: ((' ' :: (r.max.toList ++ [' '])) ++ '|' :: ((' ' :: (r.avg.toList ++ [' '])) ++
          '|' :: [])))) := by
  simp [Markdown.rowLine]

theorem cells_markdown_rowLine (r : Row) :
    cells (Markdown.rowLine r).toList = r.fields.flatMap fun f => cells f.toList := by
  have hnil : cells [] = [] := cells_of_allBlank .nil
  rw [toList_markdown_rowLine]
  simp only [cells_append_bar, cells_between_spaces, hnil]
  simp [Row.fields]

/-- The cells of a row's line are those of its fields, in both forms. -/
theorem cells_rowLine (form : Form) (r : Row) :
    cells (form.rowLine r).toList = r.fields.flatMap fun f => cells f.toList := by
  cases form with
  | console => rw [Form.rowLine, console_rowLine, cells_markdown_rowLine, flatMap_cells_padded]
  | markdown => exact cells_markdown_rowLine r

theorem mem_padRight_iff {c : Char} (hc : c ≠ ' ') (width : Nat) (s : String) :
    c ∈ (padRight width s).toList ↔ c ∈ s.toList := by
  simp [toList_padRight, hc]

theorem mem_markdown_rowLine_iff {c : Char} (hspace : c ≠ ' ') (hbar : c ≠ '|') :
    c ∈ (Markdown.rowLine r).toList ↔ ∃ f ∈ r.fields, c ∈ f.toList := by
  simp [toList_markdown_rowLine, Row.fields, hspace, hbar]

/-- Other characters than spaces and bars stand in a row's line only where a field has them. -/
theorem mem_rowLine_iff {c : Char} (form : Form) (hspace : c ≠ ' ') (hbar : c ≠ '|') :
    c ∈ (form.rowLine r).toList ↔ ∃ f ∈ r.fields, c ∈ f.toList := by
  cases form with
  | console =>
    rw [Form.rowLine, console_rowLine, mem_markdown_rowLine_iff hspace hbar]
    simp [Row.padded, Row.fields, mem_padRight_iff hspace]
  | markdown => exact mem_markdown_rowLine_iff hspace hbar

theorem getLast?_markdown_rowLine (r : Row) :
    (Markdown.rowLine r).toList.getLast? = some '|' := by
  rw [Markdown.rowLine, String.toList_append, List.getLast?_append]
  rfl

theorem getLast?_rowLine (form : Form) (r : Row) :
    (form.rowLine r).toList.getLast? = some '|' := by
  cases form with
  | console => exact getLast?_markdown_rowLine r.padded
  | markdown => exact getLast?_markdown_rowLine r

/-- A row whose fields have no line feed is written as one line. -/
theorem isLine_rowLine (form : Form) (h : ∀ f ∈ r.fields, '\n' ∉ f.toList) :
    IsLine (form.rowLine r).toList where
  no_feed hn := by
    obtain ⟨f, hf, hfn⟩ := (mem_rowLine_iff form (by decide) (by decide)).1 hn
    exact h f hf hfn
  no_return := by
    rw [getLast?_rowLine]
    decide

theorem not_allBlank_rowLine (form : Form) (r : Row) : ¬ AllBlank (form.rowLine r).toList :=
  fun h => bar_not_mem_of_allBlank h (List.mem_of_getLast? (getLast?_rowLine form r))

theorem cells_rowLine_of_wellFormed (form : Form) (h : r.WellFormed) :
    cells (form.rowLine r).toList = r.fields.map String.toList := by
  rw [cells_rowLine, List.map_eq_flatMap]
  exact List.flatMap_congr fun f hf => cells_eq_singleton (h.cell f hf)

/-- The line of a well-formed row is read as that row. -/
theorem read_rowLine (form : Form) (h : r.WellFormed) :
    Line.read (form.rowLine r).toList = .row r := by
  have hcells := cells_rowLine_of_wellFormed form h
  refine Line.read_eq_row_iff.2 ⟨?_, Row.ofLine?_eq_some_iff.2 ⟨?_, h.runtime_ne⟩⟩
  · rw [Bool.eq_false_iff, ne_eq, isHeader_iff_announces, hcells]
    exact h.not_announces
  · rw [hcells]

end TimingTable
