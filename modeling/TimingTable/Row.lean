import TimingTable.Text.Blank

/-!
# Rows of a timing table

A `Row` has the four texts of a table row, kept as they were found: nothing is read as a number.
`cells` cuts a line at its bars and keeps the trimmed pieces that are not empty, and a line is a row
(`Row.ofLine?`) where it has four cells or more and does not repeat the header. Cutting goes well
with putting a bar between two texts (`cells_append_bar`), so further columns change no row.
-/

namespace TimingTable
open Text

/-- One row: what was run, and its shortest, longest and mean time. -/
structure Row where
  runtime : String
  min : String
  max : String
  avg : String
deriving DecidableEq, Repr

/-- The name of the first column, which no row may have as its runtime. -/
def headerCell : String := "Runtime"

/-- The trimmed pieces of a line between its bars, without the empty ones. -/
def cells (line : List Char) : List (List Char) :=
  ((line.splitOn '|').map trim).filter (· ≠ [])

theorem cells_append_bar (a b : List Char) : cells (a ++ '|' :: b) = cells a ++ cells b := by
  simp [cells, List.splitOn_append_cons_self]

namespace Row

/-- The names of the fields in column order. -/
def columns : List String := ["runtime", "min", "max", "avg"]

def fields (r : Row) : List String := [r.runtime, r.min, r.max, r.avg]

/-- The row of the first four fields; fewer than four make none. -/
def ofFields? : List String → Option Row
  | runtime :: min :: max :: avg :: _ => some ⟨runtime, min, max, avg⟩
  | _ => none

/-- The row that a line holds: its first four cells, unless they are fewer or the first is the
name of the first column. -/
def ofLine? (line : List Char) : Option Row :=
  (ofFields? ((cells line).map String.ofList)).filter (·.runtime ≠ headerCell)

theorem ofFields?_fields (r : Row) : ofFields? r.fields = some r := rfl

theorem ofFields?_eq_none_iff {fs : List String} : ofFields? fs = none ↔ fs.length < 4 := by
  match fs with
  | [] | [_] | [_, _] | [_, _, _] => simp [ofFields?]
  | _ :: _ :: _ :: _ :: _ => simp [ofFields?]

end Row

end TimingTable
