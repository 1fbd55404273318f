import Mathlib.Algebra.GroupWithZero.Nat
import TimingTable.Proofs.Injectivity
import TimingTable.Proofs.ReportRows

/-!
# Alignment on the console

A field that is wider than its column hangs over, and what hangs over is all that can bring a line out of
its form. The bars of a line stand where those of the header stand, each of them moved by what hangs over
before it (`barPlaces_console_rowLine`), and the line is longer than the header by all that hangs over
(`length_console_rowLine`). A field is never cut and never fills less than its column, so a short one
cannot make up for a wide one: the lines of a table are equally long, and its bars stand below each other,
just where every field fits (`console_aligned_iff_fits`).
-/

namespace TimingTable
open Text

/-- The places of the bars in a line, counted from 0. -/
def barPlaces (line : List Char) : List Nat := line.findIdxs (· == '|')

namespace Console

/-- The widths of the columns. -/
def widths : List Nat := [runtimeWidth, timeWidth, timeWidth, timeWidth]

/-- What stands between two bars: a space, the whole text, and spaces up to the width of the column and
one more. -/
def cell (width : Nat) (text : String) : List Char :=
  ' ' :: (text.toList ++ List.replicate (width - text.length + 1) ' ')

/-- The lines of a report from its header to its last row. -/
def tableBlock (rows : List Row) : List String :=
  Form.console.header :: Form.console.dashes :: rows.map rowLine

/-- A line with the length of the header and its bars where the header has them. -/
structure Aligned (line : List Char) : Prop where
  length : line.length = 35
  bars : barPlaces line = [0, 10, 18, 26, 34]

end Console

namespace Row

/-- By how many characters each field is wider than its column. -/
def overhang (r : Row) : List Nat :=
  List.zipWith (fun width text => text.length - width) Console.widths r.fields

/-- By how many characters the fields before each of the bars hang over. -/
def overhangBefore (r : Row) : List Nat := r.overhang.scanl (· + ·) 0

/-- Every field fits its column. -/
structure Fits (r : Row) : Prop where
  runtime : r.runtime.length ≤ 7
  min : r.min.length ≤ 5
  max : r.max.length ≤ 5
  avg : r.avg.length ≤ 5

theorem fits_iff_sum_overhang {r : Row} : r.Fits ↔ r.overhang.sum = 0 := by
  simp only [overhang, Console.widths, fields, List.zipWith_cons_cons, List.zipWith_nil_left, List.sum_cons,
    List.sum_nil, Console.runtimeWidth, Console.timeWidth]
  constructor
  · rintro ⟨hruntime, hmin, hmax, havg⟩
    omega
  · intro h
    exact ⟨by omega, by omega, by omega, by omega⟩

theorem Fits.overhang_eq {r : Row} (h : r.Fits) : r.overhang = [0, 0, 0, 0] := by
  simp [overhang, Console.widths, fields, Console.runtimeWidth, Console.timeWidth, h.runtime, h.min, h.max,
    h.avg]

end Row

variable {r r' : Row} {rows before after : List Row} {p : List Char} {fs : List String} {n k d : Nat}

/-! ## Lengths -/

theorem length_padRight (width : Nat) (s : String) :
    (padRight width s).length = width + (s.length - width) := by
  rw [← String.length_toList, toList_padRight, List.length_append, String.length_toList,
    List.length_replicate]
  omega

theorem length_barred (fs : List String) : (barred fs).length = (fs.map fun f => f.length + 3).sum := by
  induction fs with
  | nil => rfl
  | cons f fs ih =>
    rw [barred, List.flatMap_cons, List.length_append, ← barred, ih]
    simp [String.length_toList]

theorem toList_console_rowLine (r : Row) : (Console.rowLine r).toList = '|' :: barred r.padded.fields := by
  rw [console_rowLine, toList_markdown_rowLine_eq_barred]

theorem length_console_rowLine (r : Row) : (Console.rowLine r).toList.length = 35 + r.overhang.sum := by
  rw [toList_console_rowLine, List.length_cons, length_barred]
  simp only [Row.padded, Row.fields, Row.overhang, Console.widths, List.map_cons, List.map_nil,
    List.zipWith_cons_cons, List.zipWith_nil_left, List.sum_cons, List.sum_nil, length_padRight,
    Console.runtimeWidth, Console.timeWidth]
  omega

/-! ## Bars -/

theorem findIdxs_bar_append_cons (hp : '|' ∉ p) (s : List Char) (n : Nat) :
    (p ++ '|' :: s).findIdxs (· == '|') n =
      (n + p.length) :: s.findIdxs (· == '|') (n + p.length + 1) := by
  have hnone : p.findIdxs (· == '|') n = [] := by
    rw [List.findIdxs_eq_nil_iff]
    intro c hc
    simp [ne_of_mem_of_not_mem hc hp]
  rw [List.findIdxs_append, hnone, List.findIdxs_cons, if_pos (by simp), List.nil_append]

/-- A bar stands after each field, with two spaces between the bars besides. -/
theorem findIdxs_bar_barred (h : ∀ f ∈ fs, '|' ∉ f.toList) (n : Nat) :
    ('|' :: barred fs).findIdxs (· == '|') n = fs.scanl (fun place f => place + (f.length + 3)) n := by
  -- the bar behind a field is the first one of what follows, so its place is general
  induction fs generalizing n with
  | nil => simp [barred]
  | cons f fs ih =>
    obtain ⟨hf, hfs⟩ := List.forall_mem_cons.1 h
    have hcell : '|' ∉ ' ' :: (f.toList ++ [' ']) := by simp [hf]
    have hlength : n + 1 + (' ' :: (f.toList ++ [' '])).length = n + (f.length + 3) := by
      simp only [List.length_cons, List.length_append, List.length_nil, String.length_toList]
      omega
    have hbarred : barred (f :: fs) = (' ' :: (f.toList ++ [' '])) ++ '|' :: barred fs := by
      simp [barred]
    rw [hbarred, List.findIdxs_cons, if_pos (by simp), findIdxs_bar_append_cons hcell, hlength,
      List.scanl_cons, ← ih hfs (n + (f.length + 3)), List.findIdxs_cons, if_pos (by simp)]

theorem barPlaces_console_rowLine (h : ∀ f ∈ r.fields, '|' ∉ f.toList) :
    barPlaces (Console.rowLine r).toList =
      List.zipWith (· + ·) [0, 10, 18, 26, 34] r.overhangBefore := by
  rw [toList_console_rowLine, barPlaces, findIdxs_bar_barred (bar_not_mem_padded h)]
  simp only [Row.padded, Row.fields, Row.overhangBefore, Row.overhang, Console.widths, List.scanl_cons,
    List.scanl_nil, List.zipWith_cons_cons, List.zipWith_nil_left, length_padRight, Console.runtimeWidth,
    Console.timeWidth, List.cons.injEq, and_true, true_and]
  omega

/-- Where one field hangs over, it moves the bars behind it and no other. -/
theorem barPlaces_of_one_overlong (h : ∀ f ∈ r.fields, '|' ∉ f.toList)
    (hover : r.overhang = [0, 0, 0, 0].set k d) :
    barPlaces (Console.rowLine r).toList =
      [0, 10, 18, 26, 34].take (k + 1) ++ ([0, 10, 18, 26, 34].drop (k + 1)).map (· + d) := by
  rw [barPlaces_console_rowLine h, Row.overhangBefore, hover]
  match k with
  | 0 | 1 | 2 | 3 => simp
  | k + 4 => simp

theorem splitOn_console_rowLine (h : ∀ f ∈ r.fields, '|' ∉ f.toList) :
    (Console.rowLine r).toList.splitOn '|' =
      [] :: List.zipWith Console.cell Console.widths r.fields ++ [[]] := by
  rw [console_rowLine, splitOn_markdown_rowLine (bar_not_mem_padded h)]
  simp [Row.padded, Row.fields, Console.widths, Console.cell, toList_padRight, List.replicate_succ']

/-! ## Tables -/

theorem aligned_rowLine_iff (h : ∀ f ∈ r.fields, '|' ∉ f.toList) :
    Console.Aligned (Console.rowLine r).toList ↔ r.Fits := by
  constructor
  · intro hline
    have hlength := hline.length
    rw [length_console_rowLine] at hlength
    exact Row.fits_iff_sum_overhang.2 (by omega)
  · intro hfits
    refine ⟨?_, ?_⟩
    · rw [length_console_rowLine, Row.fits_iff_sum_overhang.1 hfits]
    · rw [barPlaces_console_rowLine h, Row.overhangBefore, hfits.overhang_eq]
      decide

theorem aligned_header : Console.Aligned Form.console.header.toList := ⟨by decide, by decide⟩

theorem aligned_dashes : Console.Aligned Form.console.dashes.toList := ⟨by decide, by decide⟩

theorem forall_mem_tableBlock {P : String → Prop} : (∀ l ∈ Console.tableBlock rows, P l) ↔
    P Form.console.header ∧ P Form.console.dashes ∧ ∀ r ∈ rows, P (Console.rowLine r) := by
  rw [Console.tableBlock, List.forall_mem_cons, List.forall_mem_cons, List.forall_mem_map]

theorem aligned_tableBlock_iff (h : ∀ r ∈ rows, r.Plain) :
    (∀ l ∈ Console.tableBlock rows, Console.Aligned l.toList) ↔ ∀ r ∈ rows, r.Fits := by
  rw [forall_mem_tableBlock]
  constructor
  · rintro ⟨-, -, hrows⟩ r hr
    exact (aligned_rowLine_iff (h r hr).no_bar).1 (hrows r hr)
  · exact fun hfits => ⟨aligned_header, aligned_dashes, fun r hr =>
      (aligned_rowLine_iff (h r hr).no_bar).2 (hfits r hr)⟩

/-- Lines of one length are enough: a short field does not make up for a wide one. -/
theorem same_length_tableBlock_iff : (∀ l ∈ Console.tableBlock rows, ∀ l' ∈ Console.tableBlock rows,
    l.toList.length = l'.toList.length) ↔ ∀ r ∈ rows, r.Fits := by
  constructor
  · intro hsame r hr
    obtain ⟨hheader, -⟩ := forall_mem_tableBlock.1 hsame
    obtain ⟨-, -, hrows⟩ := forall_mem_tableBlock.1 hheader
    have hlength := hrows r hr
    rw [aligned_header.length, length_console_rowLine] at hlength
    exact Row.fits_iff_sum_overhang.2 (by omega)
  · intro hfits
    have hlength : ∀ l ∈ Console.tableBlock rows, l.toList.length = 35 := by
      refine forall_mem_tableBlock.2 ⟨aligned_header.length, aligned_dashes.length, fun r hr => ?_⟩
      rw [length_console_rowLine, Row.fits_iff_sum_overhang.1 (hfits r hr)]
    exact fun l hl l' hl' => (hlength l hl).trans (hlength l' hl').symm

theorem lines_console_render (hne : rows ≠ []) (h : ∀ r ∈ rows, r.Plain) :
    lines (Console.render rows).toList = ("" :: Console.tableBlock rows ++
      ["", "Total: " ++ toString rows.length ++ " runtimes tested"]).map String.toList :=
  lines_render_eq .console (Form.hasTable_of_ne_nil .console hne) fun r hr => (h r hr).no_feed

/-- The lines above that of a row, its own line, and those below it, which only know how many rows there
are. -/
theorem lines_console_render_append_cons (h : ∀ q ∈ before ++ r :: after, q.Plain) :
    lines (Console.render (before ++ r :: after)).toList =
      ("" :: Console.tableBlock before).map String.toList ++ (Console.rowLine r).toList ::
        (after.map Console.rowLine ++ ["", "Total: " ++ toString (before.length + (after.length + 1)) ++
          " runtimes tested"]).map String.toList := by
  rw [lines_console_render (by simp) h]
  simp [Console.tableBlock]

theorem lines_console_render_replace (h : ∀ q ∈ before ++ r :: after, q.Plain) (h' : r'.Plain) :
    lines (Console.render (before ++ r' :: after)).toList =
      (lines (Console.render (before ++ r :: after)).toList).set (before.length + 3)
        (Console.rowLine r').toList := by
  have hplain : ∀ q ∈ before ++ r' :: after, q.Plain := by
    simp only [List.forall_mem_append, List.forall_mem_cons] at h ⊢
    exact ⟨h.1, h', h.2.2⟩
  have habove : (("" :: Console.tableBlock before).map String.toList).length = before.length + 3 := by
    simp [Console.tableBlock]
  rw [lines_console_render_append_cons h, lines_console_render_append_cons hplain, ← habove,
    List.set_append_right _ _ (Nat.le_refl _), Nat.sub_self, List.set_cons_zero]

/-- The lines of a report with rows are listed here. Each line with a row has the whole text of every field
between its bars, with one space before it and only spaces after it; it is longer than the header by what
hangs over, and its bars are moved by what hangs over before them, so that one field that is too wide moves
the bars behind it on its own line. The lines of the table are aligned just where every field fits its
column, and for that it is enough that they are equally long. -/
theorem console_aligned_iff_fits (rows : List Row) (hne : rows ≠ []) (h : ∀ r ∈ rows, r.Plain) :
    lines (Console.render rows).toList = ("" :: Console.tableBlock rows ++
      ["", "Total: " ++ toString rows.length ++ " runtimes tested"]).map String.toList ∧
    (∀ r ∈ rows,
      (Console.rowLine r).toList.length = 35 + r.overhang.sum ∧
      (Console.rowLine r).toList.splitOn '|' =
        [] :: List.zipWith Console.cell Console.widths r.fields ++ [[]] ∧
      barPlaces (Console.rowLine r).toList =
        List.zipWith (· + ·) [0, 10, 18, 26, 34] r.overhangBefore ∧
      ∀ k d, r.overhang = [0, 0, 0, 0].set k d → barPlaces (Console.rowLine r).toList =
        [0, 10, 18, 26, 34].take (k + 1) ++ ([0, 10, 18, 26, 34].drop (k + 1)).map (· + d)) ∧
    ((∀ l ∈ Console.tableBlock rows, Console.Aligned l.toList) ↔ ∀ r ∈ rows, r.Fits) ∧
    ((∀ l ∈ Console.tableBlock rows, ∀ l' ∈ Console.tableBlock rows,
      l.toList.length = l'.toList.length) ↔ ∀ r ∈ rows, r.Fits) ∧
    ∀ before r after r', rows = before ++ r :: after → r'.Plain →
      lines (Console.render (before ++ r' :: after)).toList =
        (lines (Console.render rows).toList).set (before.length + 3) (Console.rowLine r').toList := by
  refine ⟨lines_console_render hne h, fun r hr => ?_, aligned_tableBlock_iff h,
    same_length_tableBlock_iff, ?_⟩
  · have hbar := (h r hr).no_bar
    exact ⟨length_console_rowLine r, splitOn_console_rowLine hbar, barPlaces_console_rowLine hbar,
      fun k d => barPlaces_of_one_overlong hbar⟩
  · rintro before r after r' rfl h'
    exact lines_console_render_replace h h'

/-- One time is too wide, and the texts have characters of several bytes. -/
def wideTimeRows : List Row := [⟨"go", "1.20 µs", "5", "3"⟩, ⟨"言語", "1", "", "—"⟩]

theorem console_aligned_iff_fits_wide :
    wideTimeRows ≠ [] ∧ (∀ r ∈ wideTimeRows, r.Plain) ∧
      (Console.rowLine ⟨"go", "1.20 µs", "5", "3"⟩).toList.length = 37 ∧
      barPlaces (Console.rowLine ⟨"go", "1.20 µs", "5", "3"⟩).toList = [0, 10, 20, 28, 36] ∧
      barPlaces (Console.rowLine ⟨"言語", "1", "", "—"⟩).toList = [0, 10, 18, 26, 34] ∧
      (¬ ∀ l ∈ Console.tableBlock wideTimeRows, Console.Aligned l.toList) ∧
      lines (Console.render [⟨"go", "1.20µ", "5", "3"⟩, ⟨"言語", "1", "", "—"⟩]).toList =
        (lines (Console.render wideTimeRows).toList).set 3 "| go      | 1.20µ | 5     | 3     |".toList := by
  have h : ∀ r ∈ wideTimeRows, r.Plain := by decide
  obtain ⟨-, hrow, haligned, -, hreplace⟩ := console_aligned_iff_fits wideTimeRows (by decide) h
  obtain ⟨hlength, -, -, hbars⟩ := hrow ⟨"go", "1.20 µs", "5", "3"⟩ (by decide)
  obtain ⟨-, -, hbars', -⟩ := hrow ⟨"言語", "1", "", "—"⟩ (by decide)
  refine ⟨by decide, h, hlength, hbars 1 2 (by decide), hbars', fun hall => ?_, ?_⟩
  · have hfits := haligned.1 hall ⟨"go", "1.20 µs", "5", "3"⟩ (by decide)
    exact absurd hfits.min (by decide)
  · exact hreplace [] ⟨"go", "1.20 µs", "5", "3"⟩ _ ⟨"go", "1.20µ", "5", "3"⟩ rfl (by decide)

end TimingTable
