import Mathlib.Data.Set.Operations
import TimingTable.Proofs.RowLine

/-!
# Reports read as logs

A report with a table begins with lines that a log may have before its table, a header, and a line
of dashes that is read as a row of its own (`map_read_head`), and an empty line stands after its last
row. So whatever its rows are, as long as no field has a line feed, the table found in it is the line
of dashes and the lines of its rows (`table_render`), and for well-formed rows that is those rows
(`parse_render`). No other rows can come back, for the rows of a log are well-formed:
`parse_render_iff` for the two forms, `range_parse` for a text with nothing but a header and rows.
-/

namespace TimingTable
open Text

namespace Line
variable {pre ks rest : List Line}

/-- Lines that follow a header without a blank one among them, up to a blank one or the end. -/
theorem table_append_header_cons (hpre : .header ∉ pre) (hks : .blank ∉ ks)
    (hrest : ∀ k ∈ rest.head?, k = .blank) : table (pre ++ .header :: (ks ++ rest)) = ks := by
  have hrest' : rest.takeWhile (· ≠ .blank) = [] := by
    cases rest with
    | nil => rfl
    | cons k rest => rw [hrest k rfl, List.takeWhile_cons_of_neg (by simp)]
  induction pre with
  | nil =>
    rw [List.nil_append, table_header_cons, List.takeWhile_append_of_pos, hrest', List.append_nil]
    intro k hk
    have hne : k ≠ .blank := fun h => hks (h ▸ hk)
    simpa using hne
  | cons k pre ih =>
    rw [List.mem_cons, not_or] at hpre
    rw [List.cons_append, table_cons_of_ne (Ne.symm hpre.1), ih hpre.2]

end Line

namespace Form

/-- The lines before the first row. -/
def head : Form → List String
  | console => Console.head
  | markdown => Markdown.head

/-- The lines after the last of `count` rows. -/
def foot : Form → Nat → List String
  | console => Console.foot
  | markdown => Markdown.foot

/-- The line of dashes below the header, as the row that it is read as. -/
def rule : Form → Row
  | console => ⟨"---------", "-------", "-------", "-------"⟩
  | markdown => ⟨"--------", "-----", "-----", "-----"⟩

/-- What the lines before the header are read as. -/
def opening : Form → List Line
  | console => [.blank]
  | markdown => [.blank, .prose, .blank]

/-- Only a console report without rows has no table. -/
def HasTable (form : Form) (rows : List Row) : Prop := form = console → rows ≠ []

theorem hasTable_markdown (rows : List Row) : markdown.HasTable rows := nofun

theorem hasTable_of_ne_nil {rows : List Row} (form : Form) (h : rows ≠ []) : form.HasTable rows :=
  fun _ => h

end Form

variable {rows : List Row}

theorem render_eq_unlines (form : Form) (h : form.HasTable rows) :
    form.render rows = unlines (form.head ++ rows.map form.rowLine ++ form.foot rows.length) := by
  cases form with
  | console => exact if_neg (h rfl)
  | markdown => rfl

theorem isLine_head (form : Form) : ∀ l ∈ form.head, IsLine l.toList := by
  have h : ∀ l ∈ form.head, '\n' ∉ l.toList ∧ l.toList.getLast? ≠ some '\r' := by
    cases form <;> decide
  exact fun l hl => ⟨(h l hl).1, (h l hl).2⟩

theorem map_read_head (form : Form) :
    form.head.map (fun l => Line.read l.toList) = form.opening ++ [.header, .row form.rule] := by
  cases form <;> decide

theorem lines_foot (form : Form) (count : Nat) :
    ∃ more, lines (unlines (form.foot count)).toList = [] :: more := by
  cases form <;> exact ⟨_, lines_unlines_nil_cons _⟩

/-- A report's lines up to the one after its last row. -/
theorem lines_render (form : Form) (ht : form.HasTable rows)
    (hfeed : ∀ r ∈ rows, ∀ f ∈ r.fields, '\n' ∉ f.toList) : ∃ more, lines (form.render rows).toList =
      (form.head ++ rows.map form.rowLine).map String.toList ++ [] :: more := by
  obtain ⟨more, hmore⟩ := lines_foot form rows.length
  refine ⟨more, ?_⟩
  rw [render_eq_unlines form ht, toList_unlines_append, lines_unlines_append, hmore]
  intro l hl
  rcases List.mem_append.1 hl with hl | hl
  · exact isLine_head form l hl
  · obtain ⟨r, hr, rfl⟩ := List.mem_map.1 hl
    exact isLine_rowLine form (hfeed r hr)

/-- The table found in a report: the line of dashes and the lines of the rows. -/
theorem table_render (form : Form) (ht : form.HasTable rows)
    (hfeed : ∀ r ∈ rows, ∀ f ∈ r.fields, '\n' ∉ f.toList) :
    Line.table ((lines (form.render rows).toList).map Line.read) =
      .row form.rule :: rows.map fun r => Line.read (form.rowLine r).toList := by
  obtain ⟨more, hmore⟩ := lines_render form ht hfeed
  have hread : (lines (form.render rows).toList).map Line.read = form.opening ++ .header ::
      ((.row form.rule :: rows.map fun r => Line.read (form.rowLine r).toList) ++
        .blank :: more.map Line.read) := by
    have hblank : Line.read [] = .blank := rfl
    have hhead := map_read_head form
    rw [hmore]
    simp [Function.comp_def, hblank, hhead]
  rw [hread]
  refine Line.table_append_header_cons ?_ ?_ (by simp)
  · cases form <;> decide
  · simp [Line.read_eq_blank_iff, not_allBlank_rowLine]

theorem map_read_rowLine (form : Form) (hwf : ∀ r ∈ rows, r.WellFormed) :
    (rows.map fun r => Line.read (form.rowLine r).toList) = rows.map .row :=
  List.map_congr_left fun r hr => read_rowLine form (hwf r hr)

theorem filterMap_row?_map_row (rows : List Row) : (rows.map .row).filterMap Line.row? = rows := by
  rw [List.filterMap_map]
  exact List.filterMap_some

/-- A report of well-formed rows is read as those rows below the line of dashes. -/
theorem parse_render (form : Form) (ht : form.HasTable rows) (hwf : ∀ r ∈ rows, r.WellFormed) :
    parse (form.render rows) = form.rule :: rows := by
  rw [parse_eq_filterMap_table, table_render form ht fun r hr => (hwf r hr).no_feed,
    map_read_rowLine form hwf, ← List.map_cons, filterMap_row?_map_row]

theorem parse_console_render_nil : parse (Console.render []) = [] := by decide +kernel

/-- A header and the lines of well-formed rows are enough to have those rows read. -/
theorem parse_header_cons (hwf : ∀ r ∈ rows, r.WellFormed) :
    parse (unlines ("Runtime Min" :: rows.map Markdown.rowLine)) = rows := by
  have hline : ∀ l ∈ "Runtime Min" :: rows.map Markdown.rowLine, IsLine l.toList := by
    intro l hl
    rcases List.mem_cons.1 hl with rfl | hl
    · exact ⟨by decide, by decide⟩
    · obtain ⟨r, hr, rfl⟩ := List.mem_map.1 hl
      exact isLine_rowLine .markdown (hwf r hr).no_feed
  have hlines := lines_unlines_append hline []
  rw [List.append_nil, lines_nil, List.append_nil] at hlines
  have hheader : Line.read "Runtime Min".toList = .header := by decide
  have hrows : rows.map (fun r => Line.read (Markdown.rowLine r).toList) = rows.map .row :=
    map_read_rowLine .markdown hwf
  have hread : (lines (unlines ("Runtime Min" :: rows.map Markdown.rowLine)).toList).map Line.read =
      [] ++ .header :: (rows.map .row ++ []) := by
    simp only [hlines, List.map_cons, List.map_map, Function.comp_def, hheader, hrows,
      List.nil_append, List.append_nil]
  rw [parse_eq_filterMap_table, hread, Line.table_append_header_cons (by simp) (by simp) (by simp),
    filterMap_row?_map_row]

/-- Rows come back from a report of them, below its line of dashes, exactly when they are all
well-formed. A console report without rows has no table to read. -/
theorem parse_render_iff (rows : List Row) :
    (parse (Markdown.render rows) = ⟨"--------", "-----", "-----", "-----"⟩ :: rows ↔
        ∀ r ∈ rows, r.WellFormed) ∧
      (rows ≠ [] →
        (parse (Console.render rows) = ⟨"---------", "-------", "-------", "-------"⟩ :: rows ↔
          ∀ r ∈ rows, r.WellFormed)) ∧
      parse (Console.render []) = [] := by
  refine ⟨⟨fun h r hr => ?_, fun hwf => ?_⟩, fun hne => ⟨fun h r hr => ?_, fun hwf => ?_⟩, ?_⟩
  · exact wellFormed_of_mem_parse (h ▸ List.mem_cons_of_mem _ hr)
  · exact parse_render .markdown (Form.hasTable_markdown rows) hwf
  · exact wellFormed_of_mem_parse (h ▸ List.mem_cons_of_mem _ hr)
  · exact parse_render .console (Form.hasTable_of_ne_nil .console hne) hwf
  · exact parse_console_render_nil

/-- Inner spaces, a field wider than its column, one word of a header, and the same row twice. -/
theorem parse_render_iff_twice :
    [(⟨"node Runtime 22", "4.10 µs", "—", "9"⟩ : Row), ⟨"node Runtime 22", "4.10 µs", "—", "9"⟩] ≠ [] ∧
      parse (Console.render
          [⟨"node Runtime 22", "4.10 µs", "—", "9"⟩, ⟨"node Runtime 22", "4.10 µs", "—", "9"⟩]) =
        [⟨"---------", "-------", "-------", "-------"⟩,
          ⟨"node Runtime 22", "4.10 µs", "—", "9"⟩, ⟨"node Runtime 22", "4.10 µs", "—", "9"⟩] :=
  ⟨by decide, ((parse_render_iff _).2.1 (by decide)).2 (by decide +kernel)⟩

/-- The lists of rows that logs have are the lists of well-formed rows, and every such list is that
of a header with the lines of its rows. -/
theorem range_parse :
    Set.range parse = {rows | ∀ r ∈ rows, r.WellFormed} ∧
      ∀ rows, parse (unlines ("Runtime Min" :: rows.map Markdown.rowLine)) = rows ↔
        ∀ r ∈ rows, r.WellFormed := by
  have hwf : ∀ log, ∀ r ∈ parse log, r.WellFormed := fun _ _ hr => wellFormed_of_mem_parse hr
  refine ⟨Set.ext fun rows => ⟨?_, fun h => ⟨_, parse_header_cons h⟩⟩, fun rows => ⟨?_, ?_⟩⟩
  · rintro ⟨log, rfl⟩
    exact hwf log
  · intro h
    rw [← h]
    exact hwf _
  · exact parse_header_cons

end TimingTable
