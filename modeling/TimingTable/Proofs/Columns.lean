import TimingTable.Proofs.Cells

/-!
# Columns of a row

What a line holds as a row is told by its first four cells (`Row.exists_ofLine?_iff`,
`Row.cells_of_ofLine?`). So further columns change nothing (`Row.ofLine?_append_bar`), and neither do
blank ones, wherever they are put (`Spaced.ofLine?_eq`), for a blank column gives no cell. Reading a row
in two steps, a test of the cells and then the row made of them, asks twice for their number, and looks
the first of them up. Both times the answer is the same, so what is looked up is there, and of cells that
pass the test a row can be made (`Row.ofTestedLine?_eq`, `Row.exists_ofFields?_of_isTurnedAway?`).
-/

namespace TimingTable
open Text

/-- Some columns, and the same columns with blank ones put in: before, between or after them. -/
inductive Spaced : List (List Char) → List (List Char) → Prop
  | nil : Spaced [] []
  | keep (p : List Char) {ps qs : List (List Char)} (h : Spaced ps qs) : Spaced (p :: ps) (p :: qs)
  | blank {w : List Char} {ps qs : List (List Char)} (hw : AllBlank w) (h : Spaced ps qs) :
    Spaced ps (w :: qs)

/-- The cells of a line that is cut into columns already. -/
def cellsOfColumns (ps : List (List Char)) : List (List Char) := (ps.map trim).filter (· ≠ [])

variable {line line' more w : List Char} {ps qs : List (List Char)} {fs : List String} {r : Row}

theorem cellsOfColumns_cons (p : List Char) (ps : List (List Char)) :
    cellsOfColumns (p :: ps) = if trim p = [] then cellsOfColumns ps else trim p :: cellsOfColumns ps := by
  simp only [cellsOfColumns, List.map_cons, List.filter_cons, decide_eq_true_eq, ite_not]

namespace Spaced

theorem cellsOfColumns_eq (h : Spaced ps qs) : cellsOfColumns qs = cellsOfColumns ps := by
  induction h with
  | nil => rfl
  | keep p _ ih => rw [cellsOfColumns_cons, cellsOfColumns_cons, ih]
  | blank hw _ ih => rw [cellsOfColumns_cons, if_pos (trim_eq_nil_iff.2 hw), ih]

theorem cells_eq (h : Spaced (line.splitOn '|') (line'.splitOn '|')) : cells line' = cells line :=
  h.cellsOfColumns_eq

theorem ofLine?_eq (h : Spaced (line.splitOn '|') (line'.splitOn '|')) :
    Row.ofLine? line' = Row.ofLine? line := by
  rw [Row.ofLine?, h.cells_eq, Row.ofLine?]

end Spaced

namespace Row

/-- The least number of cells of a row. -/
def minCells : Nat := 4

/-- The test of some cells before a row is made of them: whether there are too few, or the first one is
the name of the first column. That one is looked up, and without it there is no answer. -/
def isTurnedAway? (fs : List String) : Option Bool :=
  if fs.length < minCells then some true else fs[0]?.map (· == headerCell)

/-- The row of a line, read in two steps. It has no value where the test of the cells has no answer. -/
def ofTestedLine? (line : List Char) : Option (Option Row) :=
  let fs := (cells line).map String.ofList
  (isTurnedAway? fs).map fun away => if away then none else ofFields? fs

theorem isTurnedAway?_eq (fs : List String) :
    isTurnedAway? fs = some (decide (fs.length < minCells ∨ fs.head? = some headerCell)) := by
  cases fs with
  | nil => rfl
  | cons f fs =>
    rw [isTurnedAway?]
    split_ifs with hfew
    · rw [decide_eq_true (.inl hfew)]
    · simp only [hfew, false_or, List.head?_cons, Option.some.injEq]
      rfl

theorem exists_ofFields?_iff : (∃ r, ofFields? fs = some r) ↔ minCells ≤ fs.length := by
  rw [← Option.isSome_iff_exists, ← Option.ne_none_iff_isSome, ne_eq, ofFields?_eq_none_iff, not_lt]
  rfl

theorem exists_ofFields?_of_isTurnedAway? (h : isTurnedAway? fs = some false) :
    ∃ r, ofFields? fs = some r := by
  rw [isTurnedAway?_eq, Option.some.injEq, decide_eq_false_iff_not, not_or, not_lt] at h
  exact exists_ofFields?_iff.2 h.1

theorem filter_ofFields? (fs : List String) : (ofFields? fs).filter (·.runtime ≠ headerCell) =
    if fs.length < minCells ∨ fs.head? = some headerCell then none else ofFields? fs := by
  match fs with
  | [] | [_] | [_, _] | [_, _, _] => simp [ofFields?, minCells]
  | runtime :: min :: max :: avg :: more =>
    have hlong : ¬ (runtime :: min :: max :: avg :: more).length < minCells := by simp [minCells]
    simp only [ofFields?, hlong, false_or, List.head?_cons, Option.some.injEq]
    by_cases h : runtime = headerCell <;> simp [Option.filter, h]

theorem ofTestedLine?_eq (line : List Char) : ofTestedLine? line = some (ofLine? line) := by
  rw [ofTestedLine?, isTurnedAway?_eq, Option.map_some, ofLine?, filter_ofFields?]
  simp only [decide_eq_true_eq]

theorem exists_ofLine?_iff : (∃ r, ofLine? line = some r) ↔
    minCells ≤ (cells line).length ∧ (cells line).head? ≠ some headerCell.toList := by
  have hhead : ((cells line).map String.ofList).head? = some headerCell ↔
      (cells line).head? = some headerCell.toList := by
    cases cells line <;> simp [← String.toList_inj]
  rw [ofLine?, filter_ofFields?]
  split_ifs with h <;> rw [hhead, List.length_map] at h
  · have hnot : ¬ (minCells ≤ (cells line).length ∧ (cells line).head? ≠ some headerCell.toList) := by
      rwa [← not_lt, ne_eq, ← not_or, not_not]
    simp [hnot]
  · rw [exists_ofFields?_iff, List.length_map]
    rw [not_or, not_lt] at h
    exact ⟨fun _ => h, fun _ => h.1⟩

theorem cells_of_ofLine? (h : ofLine? line = some r) :
    r.fields.map String.toList = (cells line).take minCells :=
  List.prefix_iff_eq_take.1 (ofLine?_eq_some_iff.1 h).1

theorem ofLine?_congr (h : (cells line).take minCells = (cells line').take minCells) :
    ofLine? line = ofLine? line' := by
  ext r
  simp only [ofLine?_eq_some_iff, List.prefix_iff_eq_take]
  exact and_congr_left fun _ => iff_of_eq (congrArg _ h)

theorem ofLine?_append_bar (h : minCells ≤ (cells line).length) (more : List Char) :
    ofLine? (line ++ '|' :: more) = ofLine? line :=
  ofLine?_congr (by rw [cells_append_bar, List.take_append_of_le_length h])

end Row

/-- The cells of a line with a bar in it are those before the bar and those after it. A line is a row just
where it has four cells or more and the first is not the name of the first column, and the row has the
first four. To test the cells and then make a row of them comes to the same: the test always has an
answer, and of cells that pass it a row can be made. So neither further columns nor blank ones change what
a line is. -/
theorem leading_cells_make_rows :
    (∀ a b, cells (a ++ '|' :: b) = cells a ++ cells b) ∧
    (∀ line, (∃ r, Row.ofLine? line = some r) ↔
      4 ≤ (cells line).length ∧ (cells line).head? ≠ some "Runtime".toList) ∧
    (∀ line r, Row.ofLine? line = some r → r.fields.map String.toList = (cells line).take 4) ∧
    (∀ line, Row.ofTestedLine? line = some (Row.ofLine? line)) ∧
    (∀ fs, Row.isTurnedAway? fs = some false → ∃ r, Row.ofFields? fs = some r) ∧
    (∀ line more, 4 ≤ (cells line).length → Row.ofLine? (line ++ '|' :: more) = Row.ofLine? line) ∧
    ∀ line line', Spaced (line.splitOn '|') (line'.splitOn '|') → Row.ofLine? line' = Row.ofLine? line :=
  ⟨cells_append_bar, fun _ => Row.exists_ofLine?_iff, fun _ _ => Row.cells_of_ofLine?,
    Row.ofTestedLine?_eq, fun _ => Row.exists_ofFields?_of_isTurnedAway?,
    fun _ more h => Row.ofLine?_append_bar h more, fun _ _ => Spaced.ofLine?_eq⟩

/-- A line with a blank column, an empty one, a space inside a cell and the words of a header. -/
def raggedLine : List Char := " go |\u2003| 1.20 µs ||Min | Runtime".toList

/-- The same line with blank columns before, between and after its own. -/
def spacedLine : List Char := "\t| go |\u2003| 1.20 µs ||\u00a0|Min | Runtime|".toList

theorem splitOn_raggedLine : raggedLine.splitOn '|' =
    [" go ", "\u2003", " 1.20 µs ", "", "Min ", " Runtime"].map String.toList := by
  decide +kernel

theorem splitOn_spacedLine : spacedLine.splitOn '|' =
    ["\t", " go ", "\u2003", " 1.20 µs ", "", "\u00a0", "Min ", " Runtime", ""].map String.toList := by
  decide +kernel

theorem leading_cells_make_rows_ragged :
    4 ≤ (cells raggedLine).length ∧
      ["go", "1.20 µs", "Min", "Runtime"].map String.toList = (cells raggedLine).take 4 ∧
      Row.isTurnedAway? ["go", "1.20 µs", "Min", "Runtime"] = some false ∧
      (∃ r, Row.ofFields? ["go", "1.20 µs", "Min", "Runtime"] = some r) ∧
      Row.ofLine? (raggedLine ++ '|' :: " Runtime | 7".toList) = some ⟨"go", "1.20 µs", "Min", "Runtime"⟩ ∧
      Spaced (raggedLine.splitOn '|') (spacedLine.splitOn '|') ∧
      Row.ofLine? spacedLine = some ⟨"go", "1.20 µs", "Min", "Runtime"⟩ := by
  have hcells : 4 ≤ (cells raggedLine).length := by decide +kernel
  have hrow : Row.ofLine? raggedLine = some ⟨"go", "1.20 µs", "Min", "Runtime"⟩ := by decide +kernel
  have hspaced : Spaced (raggedLine.splitOn '|') (spacedLine.splitOn '|') := by
    rw [splitOn_raggedLine, splitOn_spacedLine]
    exact .blank (by decide) (.keep _ (.keep _ (.keep _ (.keep _ (.blank (by decide)
      (.keep _ (.keep _ (.blank (by decide) .nil))))))))
  obtain ⟨-, -, hfirst, -, htest, hmore, hblank⟩ := leading_cells_make_rows
  exact ⟨hcells, hfirst _ _ hrow, by decide, htest _ (by decide), (hmore _ _ hcells).trans hrow, hspaced,
    (hblank _ _ hspaced).trans hrow⟩

end TimingTable
