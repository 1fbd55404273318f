import TimingTable.Scan
import TimingTable.Proofs.Cells

/-!
# The table of a log

What a line is to the table follows from its words, its blank characters and its cells
(`Line.read_eq_header_iff`, `Line.read_eq_blank_iff`, `Line.read_eq_row_iff`). A scan carries a
state from line to line and stops in the middle of the log, but its rows are those of one stretch of
lines: `Line.table` cuts it out, from the first header to the first blank line after it. A scan
inside the table gives the rows up to that blank line (`filterMap_row?_scanTable`), and before the
table it only looks for the header (`filterMap_row?_seekTable`). `parse_eq_filterMap_tableLines` says
the same with the words and cells of the lines alone.
-/

namespace TimingTable
open Text

/-- A line with both words of a header, anywhere in it. -/
def HasHeaderWords (line : List Char) : Prop :=
  "Runtime".toList <:+: line ∧ "Min".toList <:+: line

instance : DecidablePred HasHeaderWords := fun _ => inferInstanceAs (Decidable (_ ∧ _))

theorem isHeader_iff_hasHeaderWords {line : List Char} :
    isHeader line = true ↔ HasHeaderWords line := by
  rw [isHeader, Bool.and_eq_true, hasWord_iff, hasWord_iff, HasHeaderWords]

namespace Row
variable {line : List Char} {r : Row}

theorem ofLine?_trim (line : List Char) : ofLine? (trim line) = ofLine? line := by
  rw [ofLine?, cells_trim, ofLine?]

theorem four_le_length_cells (h : ofLine? line = some r) : 4 ≤ (cells line).length :=
  (ofLine?_eq_some_iff.1 h).1.length_le

theorem bar_mem_of_ofLine? (h : ofLine? line = some r) : '|' ∈ line := by
  by_contra hbar
  have h4 := four_le_length_cells h
  rw [cells_of_bar_not_mem hbar] at h4
  split at h4 <;> simp at h4

end Row

namespace Line
variable {line : List Char} {r : Row} {k : Line}

/-- The row of a line that is one. -/
def row? : Line → Option Row
  | row r => some r
  | _ => none

/-- Reading trims the line first, but each of its tests comes out the same on the whole line. -/
theorem read_eq (line : List Char) :
    read line =
      if isHeader line then .header
      else if AllBlank line then .blank
      else if '|' ∉ line then .prose
      else match Row.ofLine? line with
        | some r => .row r
        | none => .rejected (String.ofList (trim line)) := by
  have hbar : '|' ∈ trim line ↔ '|' ∈ line := mem_trim_iff (by decide)
  rw [read]
  refine if_congr Iff.rfl rfl (if_congr trim_eq_nil_iff rfl (if_congr (not_congr hbar) rfl ?_))
  have hline := Row.ofLine?_trim line
  cases hr : Row.ofLine? line <;> simp only [hline, hr]

theorem read_eq_header_iff : read line = .header ↔ isHeader line = true := by
  rw [read_eq]
  split_ifs <;> try simp [*]
  split <;> simp

theorem read_eq_blank_iff : read line = .blank ↔ AllBlank line := by
  have hblank : isHeader line = true → ¬ AllBlank line := fun hh hb => by
    rw [not_isHeader_of_allBlank hb] at hh
    cases hh
  rw [read_eq]
  split_ifs with hh <;> try simp [*]
  split <;> simp

/-- A line is a row where it holds one and is not a header: a line that holds a row has a bar, and
so is neither blank nor prose. -/
theorem read_eq_row_iff : read line = .row r ↔ isHeader line = false ∧ Row.ofLine? line = some r := by
  rw [read_eq]
  constructor
  · intro h
    split_ifs at h with hh
    split at h
    · next r' hr => cases h; exact ⟨by simpa using hh, hr⟩
    · cases h
  · rintro ⟨hh, hr⟩
    have hbar : '|' ∈ line := Row.bar_mem_of_ofLine? hr
    have hb : ¬ AllBlank line := fun hb => bar_not_mem_of_allBlank hb hbar
    rw [if_neg (by simp [hh]), if_neg hb, if_neg (by simpa using hbar), hr]

theorem row?_eq_some_iff : k.row? = some r ↔ k = .row r := by
  cases k <;> simp [row?]

theorem row?_read (line : List Char) :
    (read line).row? = if isHeader line then none else Row.ofLine? line := by
  ext r
  rw [row?_eq_some_iff, read_eq_row_iff]
  split <;> simp [*]

/-- The lines of the table: those between the first header and the first blank line after it. -/
def table (ks : List Line) : List Line :=
  ((ks.dropWhile (· ≠ .header)).drop 1).takeWhile (· ≠ .blank)

theorem table_cons_of_ne (h : k ≠ .header) (ks : List Line) : table (k :: ks) = table ks := by
  rw [table, List.dropWhile_cons_of_pos (by simpa using h), table]

theorem table_header_cons (ks : List Line) : table (.header :: ks) = ks.takeWhile (· ≠ .blank) := by
  rw [table, List.dropWhile_cons_of_neg (by simp), List.drop_one, List.tail_cons]

end Line

/-- Inside the table a scan finds the rows of the lines up to the first blank one. -/
theorem filterMap_row?_scanTable (n : Nat) (ls : List (List Char)) :
    (scanTable n ls).filterMap Finding.row? =
      ((ls.map Line.read).takeWhile (· ≠ .blank)).filterMap Line.row? := by
  induction ls generalizing n with
  | nil => rfl
  | cons line ls ih =>
    rw [scanTable, List.map_cons]
    cases Line.read line <;> simp [List.filterMap_cons, Finding.row?, Line.row?, ih]

/-- A scan finds the rows of the table. -/
theorem filterMap_row?_seekTable (n : Nat) (ls : List (List Char)) :
    (seekTable n ls).filterMap Finding.row? =
      (Line.table (ls.map Line.read)).filterMap Line.row? := by
  induction ls generalizing n with
  | nil => rfl
  | cons line ls ih =>
    rw [seekTable, List.map_cons]
    split
    · next h =>
      rw [Line.read_eq_header_iff.2 h, Line.table_header_cons,
        List.filterMap_cons_none rfl, filterMap_row?_scanTable]
    · next h =>
      have hne : Line.read line ≠ .header := fun hk => h (Line.read_eq_header_iff.1 hk)
      rw [Line.table_cons_of_ne hne, ih]

theorem parse_eq_filterMap_table (log : String) :
    parse log = (Line.table ((lines log.toList).map Line.read)).filterMap Line.row? :=
  filterMap_row?_seekTable 1 (lines log.toList)

/-- The lines after the first one with the words of a header, up to the first blank one. -/
def tableLines (ls : List (List Char)) : List (List Char) :=
  ((ls.dropWhile fun line => ¬ HasHeaderWords line).drop 1).takeWhile fun line => ¬ AllBlank line

/-- The row that a line of a table stands for: its first four cells, where it has as many, they do
not begin with the name of the first column, and the line has not the words of a header. -/
def Row.ofTableLine? (line : List Char) : Option Row :=
  match cells line with
  | runtime :: min :: max :: avg :: _ =>
    if HasHeaderWords line ∨ runtime = "Runtime".toList then none
    else some ⟨.ofList runtime, .ofList min, .ofList max, .ofList avg⟩
  | _ => none

theorem map_read_tableLines (ls : List (List Char)) :
    (tableLines ls).map Line.read = Line.table (ls.map Line.read) := by
  have hheader : ∀ line, (Line.read line ≠ .header) ↔ ¬ HasHeaderWords line := fun line => by
    rw [ne_eq, Line.read_eq_header_iff, isHeader_iff_hasHeaderWords]
  have hblank : ∀ line, (Line.read line ≠ .blank) ↔ ¬ AllBlank line := fun line => by
    rw [ne_eq, Line.read_eq_blank_iff]
  rw [Line.table, List.dropWhile_map, ← List.map_drop, List.takeWhile_map, tableLines]
  simp only [Function.comp_def, hheader, hblank]

theorem row?_read_eq_ofTableLine? (line : List Char) :
    (Line.read line).row? = Row.ofTableLine? line := by
  rw [Line.row?_read, Row.ofLine?, Row.ofTableLine?]
  rcases cells line with _ | ⟨runtime, _ | ⟨min, _ | ⟨max, _ | ⟨avg, more⟩⟩⟩⟩
  · simp [Row.ofFields?]
  · simp [Row.ofFields?]
  · simp [Row.ofFields?]
  · simp [Row.ofFields?]
  · have hname : String.ofList runtime = headerCell ↔ runtime = "Runtime".toList := by
      rw [← String.toList_inj, String.toList_ofList, headerCell]
    simp only [List.map_cons, Row.ofFields?, Option.filter_some, isHeader_iff_hasHeaderWords,
      decide_eq_true_eq, ne_eq, hname]
    by_cases hh : HasHeaderWords line
    · rw [if_pos hh, if_pos (.inl hh)]
    · rw [if_neg hh]
      by_cases hr : runtime = "Runtime".toList
      · rw [if_neg (not_not_intro hr), if_pos (.inr hr)]
      · rw [if_pos hr, if_neg (not_or_intro hh hr)]

/-- The rows of a log are, in order, those of the lines in its table, and no other line matters. -/
theorem parse_eq_filterMap_tableLines (log : String) :
    parse log = (tableLines (lines log.toList)).filterMap Row.ofTableLine? := by
  rw [parse_eq_filterMap_table, ← map_read_tableLines, List.filterMap_map]
  exact List.filterMap_congr fun line _ => row?_read_eq_ofTableLine? line

end TimingTable
