import TimingTable.Proofs.Layout
import TimingTable.Proofs.RoundTrip

/-!
# Rows of a report, whatever they hold

If no field has a line feed, every row of a report is one line with a bar, so what comes back from it
depends on that row alone (`Row.echo?`, `parse_render_eq_cons_filterMap`). Otherwise fields may break
their row into several lines, close the table or start it anew. Still a report is read like its line
of dashes and the lines of its rows (`parse_render_eq_cons_rowsFrom`), and the spaces that fill a
column stand before a bar of the same line, where they change no content. So both forms of a report
give the same rows (`exists_parse_render_eq_cons`).
-/

namespace TimingTable
open Text

namespace Row

/-- The cells of the fields of a row, in order. -/
def fieldCells (r : Row) : List (List Char) := r.fields.flatMap fun f => cells f.toList

/-- What comes back from the line of a row in a report. A row is lost where the cells of its fields
hold both words of a header, are fewer than four or begin with the name of the first column. -/
def echo? (r : Row) : Option Row :=
  match r.fieldCells with
  | runtime :: min :: max :: avg :: _ =>
    if Announces r.fieldCells ∨ runtime = "Runtime".toList then none
    else some ⟨.ofList runtime, .ofList min, .ofList max, .ofList avg⟩
  | _ => none

end Row

theorem row?_read_rowLine (form : Form) (r : Row) :
    (Line.read (form.rowLine r).toList).row? = r.echo? := by
  have hcells : cells (form.rowLine r).toList = r.fieldCells := cells_rowLine form r
  have hheader : HasHeaderWords (form.rowLine r).toList ↔ Announces r.fieldCells := by
    rw [← isHeader_iff_hasHeaderWords, isHeader_iff_announces, hcells]
  rw [row?_read_eq_ofTableLine?, Row.ofTableLine?, hcells, Row.echo?]
  -- both sides make a row of the same cells, and only their tests for a header are told differently
  clear hcells
  generalize r.fieldCells = ts at hheader ⊢
  rcases ts with _ | ⟨runtime, _ | ⟨min, _ | ⟨max, _ | ⟨avg, more⟩⟩⟩⟩
  · rfl
  · rfl
  · rfl
  · rfl
  · exact if_congr (or_congr hheader Iff.rfl) rfl rfl

variable {rows : List Row}

theorem Row.WellFormed.echo?_eq {r : Row} (h : r.WellFormed) : r.echo? = some r := by
  rw [← row?_read_rowLine .markdown, read_rowLine .markdown h, Line.row?]

/-- A report whose rows have no line feeds gives back, row by row, what each of them stands for. -/
theorem parse_render_of_no_feed (form : Form) (ht : form.HasTable rows)
    (hfeed : ∀ r ∈ rows, ∀ f ∈ r.fields, '\n' ∉ f.toList) :
    parse (form.render rows) = form.rule :: rows.filterMap Row.echo? := by
  have hrule : (Line.row form.rule).row? = some form.rule := rfl
  rw [parse_eq_filterMap_table, table_render form ht hfeed, List.filterMap_cons_some hrule,
    List.filterMap_map]
  exact congrArg _ (List.filterMap_congr fun r _ => row?_read_rowLine form r)

/-- The well-formed rows come back in their order, whatever stands between them. -/
theorem filter_wellFormed_sublist (rows : List Row) :
    (rows.filter fun r => r.WellFormed).Sublist (rows.filterMap Row.echo?) := by
  have hgood : (rows.filter fun r => r.WellFormed).filterMap Row.echo? =
      rows.filter fun r => r.WellFormed := by
    have hecho : ∀ r ∈ rows.filter fun r => r.WellFormed, r.echo? = some r := fun r hr =>
      Row.WellFormed.echo?_eq (by simpa using (List.mem_filter.1 hr).2)
    rw [List.filterMap_congr hecho, List.filterMap_some]
  rw [← hgood]
  exact List.filter_sublist.filterMap Row.echo?

/-- Rows without line feeds come back one by one, each of them as what its own fields stand for. So
none of them closes the table, or changes what comes back from another one: the well-formed rows
are all there, in their order. -/
theorem parse_render_eq_cons_filterMap (rows : List Row)
    (hfeed : ∀ r ∈ rows, ∀ f ∈ r.fields, '\n' ∉ f.toList) :
    parse (Markdown.render rows) =
        ⟨"--------", "-----", "-----", "-----"⟩ :: rows.filterMap Row.echo? ∧
      (rows ≠ [] → parse (Console.render rows) =
        ⟨"---------", "-------", "-------", "-------"⟩ :: rows.filterMap Row.echo?) ∧
      (rows.filter fun r => r.WellFormed).Sublist (rows.filterMap Row.echo?) :=
  ⟨parse_render_of_no_feed .markdown (Form.hasTable_markdown rows) hfeed,
    fun hne => parse_render_of_no_feed .console (Form.hasTable_of_ne_nil .console hne) hfeed,
    filter_wellFormed_sublist rows⟩

/-- Among a row of blank fields, one with bars in its fields, one that is read as a header and one
that repeats the name of the column, a good row stays as it is. -/
theorem parse_render_eq_cons_filterMap_bars :
    (∀ r ∈ [(⟨"", " ", "\t", "\r"⟩ : Row), ⟨"a|b", "", " ", "c| d |e"⟩, ⟨"Min", "a Runtime", "1", "2"⟩,
        ⟨" Runtime", "1", "2", "3"⟩, ⟨"go", "1", "5", "3"⟩], ∀ f ∈ r.fields, '\n' ∉ f.toList) ∧
      parse (Console.render [⟨"", " ", "\t", "\r"⟩, ⟨"a|b", "", " ", "c| d |e"⟩,
          ⟨"Min", "a Runtime", "1", "2"⟩, ⟨" Runtime", "1", "2", "3"⟩, ⟨"go", "1", "5", "3"⟩]) =
        [⟨"---------", "-------", "-------", "-------"⟩, ⟨"a", "b", "c", "d"⟩, ⟨"go", "1", "5", "3"⟩] := by
  have hfeed : ∀ r ∈ [(⟨"", " ", "\t", "\r"⟩ : Row), ⟨"a|b", "", " ", "c| d |e"⟩,
      ⟨"Min", "a Runtime", "1", "2"⟩, ⟨" Runtime", "1", "2", "3"⟩, ⟨"go", "1", "5", "3"⟩],
      ∀ f ∈ r.fields, '\n' ∉ f.toList := by decide
  refine ⟨hfeed, ?_⟩
  rw [(parse_render_eq_cons_filterMap _ hfeed).2.1 (by decide)]
  decide

/-- The lines before the first row hold the row of dashes and leave a scan inside the table. -/
theorem rowsFrom_head (form : Form) (ls : List (List Char)) :
    rowsFrom .seeking (form.head.map String.toList ++ ls) = form.rule :: rowsFrom .inside ls := by
  have hrule : rowsFrom .seeking (form.head.map String.toList) = [form.rule] := by
    cases form <;> decide
  have hstage : Stage.seeking.after (form.head.map String.toList) = .inside := by
    cases form <;> decide
  rw [rowsFrom_append, hrule, hstage, List.singleton_append]

/-- A report is read like its line of dashes and the lines of its rows. -/
theorem parse_render_eq_cons_rowsFrom (form : Form) (ht : form.HasTable rows) :
    parse (form.render rows) =
      form.rule :: rowsFrom .inside (lines (unlines (rows.map form.rowLine)).toList) := by
  obtain ⟨more, hmore⟩ := lines_foot form rows.length
  rw [parse_eq_rowsFrom, render_eq_unlines form ht, toList_unlines_append, toList_unlines_append,
    List.append_assoc, lines_unlines_append (isLine_head form), rowsFrom_head,
    lines_append (unlines_eq_nil_or_getLast? _), hmore, rowsFrom_inside_append_cons .nil]

/-- The second text is the first one, filled up with blank characters on the same line. -/
def FilledUp (f g : String) : Prop := ∃ w, AllBlank w ∧ '\n' ∉ w ∧ g.toList = f.toList ++ w

theorem filledUp_padRight (width : Nat) (f : String) : FilledUp f (padRight width f) :=
  ⟨_, allBlank_replicate_space _, by simp, toList_padRight width f⟩

theorem forall₂_filledUp_padded (r : Row) : List.Forall₂ FilledUp r.fields r.padded.fields :=
  .cons (filledUp_padRight _ _) (.cons (filledUp_padRight _ _)
    (.cons (filledUp_padRight _ _) (.cons (filledUp_padRight _ _) .nil)))

/-- Fields with a space before and a space and a bar after each of them. -/
def barred (fs : List String) : List Char := fs.flatMap fun f => ' ' :: (f.toList ++ [' ', '|'])

theorem toList_markdown_rowLine_eq_barred (r : Row) :
    (Markdown.rowLine r).toList = '|' :: barred r.fields := by
  simp [Markdown.rowLine, barred, Row.fields]

/-- Filling up fields between bars makes no difference to a scan. -/
theorem rowsFrom_splitOn_barred {fs gs : List String} (h : List.Forall₂ FilledUp fs gs) (st : Stage)
    (s t : List Char) :
    rowsFrom st ((s ++ (barred gs ++ t)).splitOn '\n') =
      rowsFrom st ((s ++ (barred fs ++ t)).splitOn '\n') := by
  induction h generalizing s with
  | nil => rfl
  | @cons f g fs gs hfg _ ih =>
    obtain ⟨w, hw, hfeed, hg⟩ := hfg
    have hspace : AllBlank [' '] := allBlank_replicate_space 1
    have hws : '\n' ∉ w ++ [' '] := by simp [hfeed]
    -- both fields are followed by blank characters and a bar
    have hleft : s ++ (barred (g :: gs) ++ t) =
        (s ++ ' ' :: f.toList) ++ ((w ++ [' ']) ++ '|' :: (barred gs ++ t)) := by
      simp [barred, hg]
    have hright : s ++ (barred (f :: fs) ++ t) =
        (s ++ ' ' :: f.toList) ++ ([' '] ++ '|' :: (barred fs ++ t)) := by
      simp [barred]
    have hrest := ih (s ++ ' ' :: f.toList ++ ['|'])
    rw [hleft, hright, rowsFrom_splitOn_insert (hw.append hspace) hws,
      rowsFrom_splitOn_insert hspace (by decide)]
    simpa using hrest

/-- The lines of some rows give the same in both forms, whatever text stands before them. -/
theorem rowsFrom_splitOn_rowLines (st : Stage) (rows : List Row) (s : List Char) :
    rowsFrom st ((s ++ (unlines (rows.map Console.rowLine)).toList).splitOn '\n') =
      rowsFrom st ((s ++ (unlines (rows.map Markdown.rowLine)).toList).splitOn '\n') := by
  induction rows generalizing s with
  | nil => rfl
  | cons r rows ih =>
    -- first this row loses its spaces, then the rows below it, with this row in the text before them
    have hrow := rowsFrom_splitOn_barred (forall₂_filledUp_padded r) st (s ++ ['|'])
      ('\n' :: (unlines (rows.map Console.rowLine)).toList)
    have hrows := ih (s ++ '|' :: barred r.fields ++ ['\n'])
    rw [List.map_cons, List.map_cons, toList_unlines_cons, toList_unlines_cons, console_rowLine,
      toList_markdown_rowLine_eq_barred, toList_markdown_rowLine_eq_barred]
    simp only [List.append_assoc, List.cons_append, List.nil_append] at hrow hrows ⊢
    rw [hrow, hrows]

/-- The two forms of a report have the same rows below their lines of dashes. The spaces that fill
the columns of the console never make a difference, not even where a field breaks the table. -/
theorem exists_parse_render_eq_cons (rows : List Row) (hne : rows ≠ []) :
    ∃ found, parse (Console.render rows) = ⟨"---------", "-------", "-------", "-------"⟩ :: found ∧
      parse (Markdown.render rows) = ⟨"--------", "-----", "-----", "-----"⟩ :: found := by
  have hrows := rowsFrom_splitOn_rowLines .inside rows []
  have hconsole := parse_render_eq_cons_rowsFrom .console (Form.hasTable_of_ne_nil .console hne)
  have hmarkdown := parse_render_eq_cons_rowsFrom .markdown (Form.hasTable_markdown rows)
  rw [lines, rowsFrom_linesOfPieces] at hconsole hmarkdown
  exact ⟨_, hconsole.trans (congrArg _ hrows), hmarkdown⟩

/-- A field with a blank line that closes the table, and rows that stand below it. -/
theorem exists_parse_render_eq_cons_closed :
    [(⟨"go", "1\r\nRuntime Min", "2 |", "3"⟩ : Row), ⟨"deno\n\nbun", "|", "", " "⟩,
        ⟨"node", "4", "5", "6"⟩] ≠ [] ∧
      ∃ found,
        parse (Console.render [⟨"go", "1\r\nRuntime Min", "2 |", "3"⟩, ⟨"deno\n\nbun", "|", "", " "⟩,
            ⟨"node", "4", "5", "6"⟩]) = ⟨"---------", "-------", "-------", "-------"⟩ :: found ∧
          parse (Markdown.render [⟨"go", "1\r\nRuntime Min", "2 |", "3"⟩,
            ⟨"deno\n\nbun", "|", "", " "⟩, ⟨"node", "4", "5", "6"⟩]) =
              ⟨"--------", "-----", "-----", "-----"⟩ :: found :=
  ⟨by decide, exists_parse_render_eq_cons _ (by decide)⟩

end TimingTable
