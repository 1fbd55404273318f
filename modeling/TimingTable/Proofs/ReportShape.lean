import TimingTable.Proofs.RoundTrip

/-!
# The shape of a report

Nothing is escaped when a report is written, so that it is a table at all rests on what its rows are.
As long as no field has a line feed, the lines of a report are the lines that were written
(`lines_render_eq`), and the table found in it is the line of dashes and one line for each row
(`tableLines_render`). As long as no field has a bar either, each of these lines has five of them
(`isTableLine_rowLine`). The rows of a log are well-formed and meet both conditions, so every report of
a log has this shape, and the number in its last line is that of the lines with rows
(`report_of_parse_shape`).
-/

namespace TimingTable
open Text

/-- A line of a table with four columns: five bars, two of them at its ends. -/
structure IsTableLine (line : List Char) : Prop where
  bars : line.count '|' = 5
  first : line.head? = some '|'
  last : line.getLast? = some '|'

variable {r : Row} {rows : List Row} {line : List Char} {before inside after : List (List Char)}

theorem IsTableLine.not_allBlank (h : IsTableLine line) : ¬ AllBlank line := fun hblank =>
  bar_not_mem_of_allBlank hblank (List.mem_of_getLast? h.last)

theorem bar_not_mem_padded (h : ∀ f ∈ r.fields, '|' ∉ f.toList) :
    ∀ f ∈ r.padded.fields, '|' ∉ f.toList := by
  simpa [Row.padded, Row.fields, mem_padRight_iff] using h

theorem splitOn_markdown_rowLine (h : ∀ f ∈ r.fields, '|' ∉ f.toList) :
    (Markdown.rowLine r).toList.splitOn '|' =
      [] :: (r.fields.map fun f => ' ' :: (f.toList ++ [' '])) ++ [[]] := by
  have hpiece : ∀ f ∈ r.fields, '|' ∉ ' ' :: (f.toList ++ [' ']) := fun f hf => by simp [h f hf]
  simp only [Row.fields, List.forall_mem_cons] at hpiece
  obtain ⟨hruntime, hmin, hmax, havg, -⟩ := hpiece
  rw [toList_markdown_rowLine, List.splitOn_append_cons_self_of_not_mem List.not_mem_nil,
    List.splitOn_append_cons_self_of_not_mem hruntime, List.splitOn_append_cons_self_of_not_mem hmin,
    List.splitOn_append_cons_self_of_not_mem hmax, List.splitOn_append_cons_self_of_not_mem havg,
    List.splitOn_nil]
  rfl

theorem isTableLine_markdown_rowLine (h : ∀ f ∈ r.fields, '|' ∉ f.toList) :
    IsTableLine (Markdown.rowLine r).toList where
  bars := by
    have hzero : ∀ f ∈ r.fields, f.toList.count '|' = 0 := fun f hf => List.count_eq_zero.2 (h f hf)
    simp only [Row.fields, List.forall_mem_cons] at hzero
    obtain ⟨hruntime, hmin, hmax, havg, -⟩ := hzero
    simp [toList_markdown_rowLine, hruntime, hmin, hmax, havg]
  first := by rw [toList_markdown_rowLine]; rfl
  last := getLast?_markdown_rowLine r

theorem isTableLine_rowLine (form : Form) (h : ∀ f ∈ r.fields, '|' ∉ f.toList) :
    IsTableLine (form.rowLine r).toList := by
  cases form with
  | console =>
    rw [Form.rowLine, console_rowLine]
    exact isTableLine_markdown_rowLine (bar_not_mem_padded h)
  | markdown => exact isTableLine_markdown_rowLine h

theorem not_mem_toDigits {c : Char} (hc : c.isDigit = false) (n : Nat) : c ∉ Nat.toDigits 10 n := by
  intro h
  have hdigit : c.isDigit = true := Nat.isDigit_of_mem_toDigits (by omega) (by omega) h
  rw [hc] at hdigit
  cases hdigit

namespace Form

/-- What stands before the number in the last line of a report, and what stands after it. -/
def aroundTotal : Form → String × String
  | console => ("Total: ", " runtimes tested")
  | markdown => ("**Total runtimes tested:** ", "")

/-- The last line of a report of `count` rows. -/
def total (form : Form) (count : Nat) : String :=
  form.aroundTotal.1 ++ toString count ++ form.aroundTotal.2

theorem foot_eq (form : Form) (count : Nat) : form.foot count = ["", form.total count] := by
  cases form with
  | console => rfl
  | markdown => rw [total, aroundTotal, String.append_empty]; rfl

theorem toList_total (form : Form) (count : Nat) : (form.total count).toList =
    form.aroundTotal.1.toList ++ Nat.toDigits 10 count ++ form.aroundTotal.2.toList := by
  rw [total, String.toList_append, String.toList_append, Nat.toString_eq_repr, Nat.toList_repr]

/-- The only digits in the last line of a report are those of the number. -/
theorem filter_isDigit_total (form : Form) (count : Nat) :
    (form.total count).toList.filter Char.isDigit = Nat.toDigits 10 count := by
  have hbefore : form.aroundTotal.1.toList.filter Char.isDigit = [] := by cases form <;> decide
  have hafter : form.aroundTotal.2.toList.filter Char.isDigit = [] := by cases form <;> decide
  have hdigits : (Nat.toDigits 10 count).filter Char.isDigit = Nat.toDigits 10 count :=
    List.filter_eq_self.2 fun c hc => Nat.isDigit_of_mem_toDigits (by omega) (by omega) hc
  rw [toList_total, List.filter_append, List.filter_append, hbefore, hafter, hdigits, List.nil_append,
    List.append_nil]

theorem isLine_total (form : Form) (count : Nat) : IsLine (form.total count).toList := by
  have hnot : ∀ c ∈ ['\n', '\r'], c ∉ (form.total count).toList := by
    intro c hc
    have hfixed : c.isDigit = false ∧ c ∉ form.aroundTotal.1.toList ∧
        c ∉ form.aroundTotal.2.toList := by
      rcases List.mem_pair.1 hc with rfl | rfl <;> cases form <;> decide
    simp [toList_total, hfixed.2, not_mem_toDigits hfixed.1]
  exact ⟨hnot _ (by simp), fun h => hnot '\r' (by simp) (List.mem_of_getLast? h)⟩

end Form

/-- The lines of a report are the lines that were written. -/
theorem lines_render_eq (form : Form) (ht : form.HasTable rows)
    (hfeed : ∀ r ∈ rows, ∀ f ∈ r.fields, '\n' ∉ f.toList) :
    lines (form.render rows).toList =
      (form.head ++ rows.map form.rowLine ++ form.foot rows.length).map String.toList := by
  have hline : ∀ l ∈ form.head ++ rows.map form.rowLine ++ form.foot rows.length, IsLine l.toList := by
    intro l hl
    simp only [form.foot_eq, List.mem_append, List.mem_map, List.mem_pair] at hl
    rcases hl with (hl | ⟨r, hr, rfl⟩) | rfl | rfl
    · exact isLine_head form l hl
    · exact isLine_rowLine form (hfeed r hr)
    · exact ⟨by decide, by decide⟩
    · exact form.isLine_total rows.length
  have hlines := lines_unlines_append hline []
  rwa [List.append_nil, lines_nil, List.append_nil, ← render_eq_unlines form ht] at hlines

/-- Lines below a header without a blank one among them, up to one. -/
theorem tableLines_append_header_cons (hbefore : ∀ l ∈ before, ¬ HasHeaderWords l)
    (hline : HasHeaderWords line) (hinside : ∀ l ∈ inside, ¬ AllBlank l) :
    tableLines (before ++ line :: (inside ++ [] :: after)) = inside := by
  rw [tableLines, List.dropWhile_append_of_pos (by simpa using hbefore),
    List.dropWhile_cons_of_neg (by simpa using hline), List.drop_one, List.tail_cons,
    List.takeWhile_append_of_pos (by simpa using hinside),
    List.takeWhile_cons_of_neg (by simpa using AllBlank.nil), List.append_nil]

namespace Form

/-- The lines of a report above its table. -/
def above : Form → List String
  | console => [""]
  | markdown => ["", "## Performance Benchmarks", ""]

def header : Form → String
  | console => "| Runtime | Min   | Max   | Avg   |"
  | markdown => "| Runtime | Min | Max | Avg |"

/-- The line of dashes below the header. -/
def dashes : Form → String
  | console => "|---------|-------|-------|-------|"
  | markdown => "|--------|-----|-----|-----|"

theorem head_eq (form : Form) : form.head = form.above ++ [form.header, form.dashes] := by
  cases form <;> rfl

theorem not_hasHeaderWords_above (form : Form) :
    ∀ l ∈ form.above.map String.toList, ¬ HasHeaderWords l := by
  cases form <;> decide

theorem hasHeaderWords_header (form : Form) : HasHeaderWords form.header.toList := by
  cases form <;> decide

theorem isTableLine_header (form : Form) : IsTableLine form.header.toList := by
  cases form <;> exact ⟨by decide, by decide, by decide⟩

theorem isTableLine_dashes (form : Form) : IsTableLine form.dashes.toList := by
  cases form <;> exact ⟨by decide, by decide, by decide⟩

end Form

/-- The table found in a report: the line of dashes and a line for each row. -/
theorem tableLines_render (form : Form) (ht : form.HasTable rows)
    (hfeed : ∀ r ∈ rows, ∀ f ∈ r.fields, '\n' ∉ f.toList) :
    tableLines (lines (form.render rows).toList) =
      form.dashes.toList :: rows.map fun r => (form.rowLine r).toList := by
  have hlines : lines (form.render rows).toList = form.above.map String.toList ++ form.header.toList ::
      ((form.dashes.toList :: rows.map fun r => (form.rowLine r).toList) ++
        [] :: [(form.total rows.length).toList]) := by
    rw [lines_render_eq form ht hfeed, form.head_eq, form.foot_eq]
    simp [Function.comp_def]
  rw [hlines]
  refine tableLines_append_header_cons form.not_hasHeaderWords_above form.hasHeaderWords_header ?_
  intro l hl
  rcases List.mem_cons.1 hl with rfl | hl
  · exact form.isTableLine_dashes.not_allBlank
  · obtain ⟨r, -, rfl⟩ := List.mem_map.1 hl
    exact not_allBlank_rowLine form r

theorem not_hasHeaderWords_rowLine (form : Form) (h : r.WellFormed) :
    ¬ HasHeaderWords (form.rowLine r).toList := by
  rw [← isHeader_iff_hasHeaderWords, (Line.read_eq_row_iff.1 (read_rowLine form h)).1]
  simp

/-- Every report of a log has the lines that are listed here. Those of its table have five bars, two of
them at the ends, and the table ends at the empty line before the last one; a line with a row has not
the words of a header, and its cells are the fields of the row. The number in the last line is the number
of the lines with rows. -/
theorem report_of_parse_shape (log : String) :
    lines (Markdown.render (parse log)).toList =
        (["", "## Performance Benchmarks", "", "| Runtime | Min | Max | Avg |",
            "|--------|-----|-----|-----|"] ++
          (parse log).map Markdown.rowLine ++
          ["", "**Total runtimes tested:** " ++ toString (parse log).length]).map String.toList ∧
      (parse log ≠ [] → lines (Console.render (parse log)).toList =
        (["", "| Runtime | Min   | Max   | Avg   |", "|---------|-------|-------|-------|"] ++
          (parse log).map Console.rowLine ++
          ["", "Total: " ++ toString (parse log).length ++ " runtimes tested"]).map String.toList) ∧
      ∀ form : Form, (form = .console → parse log ≠ []) →
        ∃ above header dashes body total,
          lines (form.render (parse log)).toList = above ++ header :: dashes :: (body ++ [[], total]) ∧
          tableLines (lines (form.render (parse log)).toList) = dashes :: body ∧
          (∀ l ∈ header :: dashes :: body, IsTableLine l) ∧
          (∀ l ∈ body, ¬ AllBlank l ∧ ¬ HasHeaderWords l) ∧
          (body.map cells = (parse log).map fun r => r.fields.map String.toList) ∧
          total.filter Char.isDigit = Nat.toDigits 10 body.length := by
  have hwf : ∀ r ∈ parse log, r.WellFormed := fun _ => wellFormed_of_mem_parse
  have hfeed : ∀ r ∈ parse log, ∀ f ∈ r.fields, '\n' ∉ f.toList := fun r hr => (hwf r hr).no_feed
  refine ⟨lines_render_eq .markdown (Form.hasTable_markdown _) hfeed,
    fun hne => lines_render_eq .console (Form.hasTable_of_ne_nil .console hne) hfeed, fun form ht => ?_⟩
  refine ⟨form.above.map String.toList, form.header.toList, form.dashes.toList,
    (parse log).map fun r => (form.rowLine r).toList, (form.total (parse log).length).toList,
    ?_, tableLines_render form ht hfeed, ?_, ?_, ?_, ?_⟩
  · rw [lines_render_eq form ht hfeed, form.head_eq, form.foot_eq]
    simp [Function.comp_def]
  · rw [List.forall_mem_cons, List.forall_mem_cons, List.forall_mem_map]
    exact ⟨form.isTableLine_header, form.isTableLine_dashes, fun r hr =>
      isTableLine_rowLine form fun f hf => ((hwf r hr).cell f hf).no_bar⟩
  · rw [List.forall_mem_map]
    exact fun r hr => ⟨not_allBlank_rowLine form r, not_hasHeaderWords_rowLine form (hwf r hr)⟩
  · rw [List.map_map]
    exact List.map_congr_left fun r hr => cells_rowLine_of_wellFormed form (hwf r hr)
  · rw [form.filter_isDigit_total, List.length_map]

/-- A log with a carriage return, wide spaces, an empty cell, one cell too many and one word of a
header. -/
def unevenLog : String := "Runtime Min\n| go | 1.2 µs | Min | 3 |\r\n| bun| | 4\u2003|5|\u00a06 |7|\n"

theorem parse_unevenLog :
    parse unevenLog = [⟨"go", "1.2 µs", "Min", "3"⟩, ⟨"bun", "4", "5", "6"⟩] := by
  decide +kernel

theorem report_of_parse_shape_uneven :
    parse unevenLog ≠ [] ∧
      lines (Console.render (parse unevenLog)).toList =
        ["", "| Runtime | Min   | Max   | Avg   |", "|---------|-------|-------|-------|",
          "| go      | 1.2 µs | Min   | 3     |", "| bun     | 4     | 5     | 6     |", "",
          "Total: 2 runtimes tested"].map String.toList ∧
      ∃ dashes body, tableLines (lines (Console.render (parse unevenLog)).toList) = dashes :: body ∧
        body.map cells = [["go", "1.2 µs", "Min", "3"], ["bun", "4", "5", "6"]].map
          (·.map String.toList) := by
  have hne : parse unevenLog ≠ [] := by
    rw [parse_unevenLog]
    simp
  obtain ⟨-, hlines, hshape⟩ := report_of_parse_shape unevenLog
  obtain ⟨-, -, dashes, body, -, -, htable, -, -, hcells, -⟩ := hshape .console fun _ => hne
  refine ⟨hne, ?_, dashes, body, htable, ?_⟩
  · rw [hlines hne, parse_unevenLog]
    decide
  · rw [hcells, parse_unevenLog]
    rfl

end TimingTable
