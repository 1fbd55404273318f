import TimingTable.Proofs.Table
import TimingTable.Proofs.Text.Lines

/-!
# Stages of a scan

A scan looks for the table, is inside it, or has closed it (`Stage`). One line takes it from a stage
to the next and gives a finding or none (`scanFrom_cons`). So a scan of some lines and further ones
gives the findings of the first, and then what a scan finds that starts at the further ones in the
stage where the first left off (`scanFrom_append`). Which stage that is depends on whether the first
lines have a header, and a blank line below it (`Stage.after_seeking`). `parse_append` tells from
this the rows of a log that comes in two parts.
-/

namespace TimingTable
open Text

/-- How far a scan has come. -/
inductive Stage
  | seeking
  | inside
  | closed
deriving DecidableEq, Repr

namespace Stage

/-- The stage after one more line. -/
def next : Stage → Line → Stage
  | seeking, .header => inside
  | inside, .blank => closed
  | s, _ => s

/-- What is found on line `n`, if anything is. -/
def finding? (n : Nat) : Stage → Line → Option Finding
  | seeking, .header => some (.header n)
  | inside, .header => some (.header n)
  | inside, .blank => some (.closed n)
  | inside, .row r => some (.row n r)
  | inside, .rejected text => some (.skipped n text)
  | _, _ => none

/-- The stage after some lines. -/
def after (s : Stage) (ls : List (List Char)) : Stage :=
  ls.foldl (fun s line => s.next (Line.read line)) s

variable {s : Stage} {line : List Char} {ls : List (List Char)}

@[simp] theorem after_nil : s.after [] = s := rfl

@[simp] theorem after_cons : s.after (line :: ls) = (s.next (Line.read line)).after ls := rfl

theorem next_seeking (k : Line) : seeking.next k = if k = .header then inside else seeking := by
  cases k <;> rfl

theorem next_inside (k : Line) : inside.next k = if k = .blank then closed else inside := by
  cases k <;> rfl

theorem finding?_seeking (n : Nat) (k : Line) :
    seeking.finding? n k = if k = .header then some (.header n) else none := by
  cases k <;> rfl

/-- Only the lines inside the table give rows. -/
theorem bind_row?_finding? (n : Nat) (s : Stage) (k : Line) :
    (s.finding? n k).bind Finding.row? = if s = inside then k.row? else none := by
  cases s <;> cases k <;> rfl

@[simp] theorem after_closed (ls : List (List Char)) : closed.after ls = closed := by
  induction ls with
  | nil => rfl
  | cons line ls ih => exact ih

theorem after_inside (ls : List (List Char)) :
    inside.after ls = if ∃ line ∈ ls, AllBlank line then closed else inside := by
  induction ls with
  | nil => rfl
  | cons line ls ih =>
    rw [after_cons, next_inside]
    simp only [Line.read_eq_blank_iff, List.exists_mem_cons_iff]
    by_cases hb : AllBlank line
    · rw [if_pos hb, if_pos (.inl hb), after_closed]
    · rw [if_neg hb, ih]
      simp only [hb, false_or]

end Stage

/-- The lines below the first one with the words of a header. -/
def belowHeader (ls : List (List Char)) : List (List Char) :=
  (ls.dropWhile fun line => ¬ HasHeaderWords line).drop 1

variable {line : List Char} {ls ms : List (List Char)}

theorem belowHeader_cons_of_pos (h : HasHeaderWords line) (ls : List (List Char)) :
    belowHeader (line :: ls) = ls := by
  rw [belowHeader, List.dropWhile_cons_of_neg (by simpa using h), List.drop_one, List.tail_cons]

theorem belowHeader_cons_of_neg (h : ¬ HasHeaderWords line) (ls : List (List Char)) :
    belowHeader (line :: ls) = belowHeader ls := by
  rw [belowHeader, List.dropWhile_cons_of_pos (by simpa using h), belowHeader]

theorem belowHeader_eq_nil (h : ∀ line ∈ ls, ¬ HasHeaderWords line) :
    belowHeader ls = [] := by
  induction ls with
  | nil => rfl
  | cons line ls ih =>
    obtain ⟨hline, hls⟩ := List.forall_mem_cons.1 h
    rw [belowHeader_cons_of_neg hline, ih hls]

/-- Where some lines leave a scan that starts with them. -/
theorem Stage.after_seeking (ls : List (List Char)) :
    seeking.after ls =
      if ∀ line ∈ ls, ¬ HasHeaderWords line then seeking
      else if ∃ line ∈ belowHeader ls, AllBlank line then closed
      else inside := by
  induction ls with
  | nil => rfl
  | cons line ls ih =>
    rw [after_cons, next_seeking]
    simp only [Line.read_eq_header_iff, isHeader_iff_hasHeaderWords]
    by_cases hh : HasHeaderWords line
    · have hex : ¬ ∀ l ∈ line :: ls, ¬ HasHeaderWords l := fun h => h line (by simp) hh
      rw [if_pos hh, if_neg hex, belowHeader_cons_of_pos hh, after_inside]
    · rw [if_neg hh, ih, belowHeader_cons_of_neg hh]
      simp only [List.forall_mem_cons, hh, not_false_eq_true, true_and]

/-- The findings of a scan that comes in a given stage to some lines, the first of them line `n`. -/
def scanFrom : Stage → Nat → List (List Char) → List Finding
  | .seeking => seekTable
  | .inside => scanTable
  | .closed => fun _ _ => []

theorem scanFrom_nil (s : Stage) (n : Nat) : scanFrom s n [] = [] := by
  cases s <;> rfl

/-- One line of a scan. -/
theorem scanFrom_cons (s : Stage) (n : Nat) (line : List Char) (ls : List (List Char)) :
    scanFrom s n (line :: ls) =
      (s.finding? n (Line.read line)).toList ++ scanFrom (s.next (Line.read line)) (n + 1) ls := by
  cases s with
  | seeking =>
    simp only [scanFrom, seekTable, Stage.next_seeking, Stage.finding?_seeking,
      Line.read_eq_header_iff]
    by_cases h : isHeader line = true
    · rw [if_pos h, if_pos h, if_pos h]
      rfl
    · rw [if_neg h, if_neg h, if_neg h]
      rfl
  | inside =>
    rw [scanFrom, scanTable]
    cases Line.read line <;> rfl
  | closed => rfl

/-- A scan of two stretches of lines: the second goes on in the stage that the first ended in. -/
theorem scanFrom_append (s : Stage) (n : Nat) (ls ms : List (List Char)) :
    scanFrom s n (ls ++ ms) = scanFrom s n ls ++ scanFrom (s.after ls) (n + ls.length) ms := by
  induction ls generalizing s n with
  | nil => rw [scanFrom_nil, Stage.after_nil]; rfl
  | cons line ls ih =>
    rw [List.cons_append, scanFrom_cons, ih, scanFrom_cons, List.append_assoc, Stage.after_cons,
      List.length_cons, Nat.add_assoc, Nat.add_comm 1]

theorem scanFrom_seeking_eq_nil (h : ∀ line ∈ ls, ¬ HasHeaderWords line) (n : Nat) :
    scanFrom .seeking n ls = [] := by
  induction ls generalizing n with
  | nil => rfl
  | cons line ls ih =>
    obtain ⟨hline, hls⟩ := List.forall_mem_cons.1 h
    have hread : Line.read line ≠ .header := by
      rwa [ne_eq, Line.read_eq_header_iff, isHeader_iff_hasHeaderWords]
    rw [scanFrom_cons, Stage.finding?_seeking, Stage.next_seeking, if_neg hread, if_neg hread, ih hls]
    rfl

/-- The rows that a scan finds from a given stage on. -/
def rowsFrom (s : Stage) (ls : List (List Char)) : List Row := (scanFrom s 1 ls).filterMap Finding.row?

theorem parse_eq_rowsFrom (log : String) : parse log = rowsFrom .seeking (lines log.toList) := rfl

/-- How the lines are counted makes no difference to the rows. -/
theorem filterMap_row?_scanFrom (s : Stage) (n : Nat) (ls : List (List Char)) :
    (scanFrom s n ls).filterMap Finding.row? = rowsFrom s ls := by
  cases s with
  | seeking => simp only [rowsFrom, scanFrom, filterMap_row?_seekTable]
  | inside => simp only [rowsFrom, scanFrom, filterMap_row?_scanTable]
  | closed => rfl

@[simp] theorem rowsFrom_nil (s : Stage) : rowsFrom s [] = [] := by
  cases s <;> rfl

@[simp] theorem rowsFrom_closed (ls : List (List Char)) : rowsFrom .closed ls = [] := rfl

theorem rowsFrom_cons (s : Stage) (line : List Char) (ls : List (List Char)) :
    rowsFrom s (line :: ls) = (if s = .inside then (Line.read line).row? else none).toList ++
      rowsFrom (s.next (Line.read line)) ls := by
  rw [rowsFrom, scanFrom_cons, List.filterMap_append, filterMap_row?_scanFrom,
    ← Stage.bind_row?_finding? 1]
  cases s.finding? 1 (Line.read line) <;> rfl

theorem rowsFrom_append (s : Stage) (ls ms : List (List Char)) :
    rowsFrom s (ls ++ ms) = rowsFrom s ls ++ rowsFrom (s.after ls) ms := by
  rw [rowsFrom, scanFrom_append, List.filterMap_append, filterMap_row?_scanFrom,
    filterMap_row?_scanFrom]

/-- Nothing is found below a blank line in the table. -/
theorem rowsFrom_inside_append_cons (h : AllBlank line) (ls ms : List (List Char)) :
    rowsFrom .inside (ls ++ line :: ms) = rowsFrom .inside ls := by
  have hrest : rowsFrom (Stage.inside.after ls) (line :: ms) = [] := by
    rw [Stage.after_inside]
    split
    · rfl
    · rw [rowsFrom_cons, Line.read_eq_blank_iff.2 h]
      rfl
  rw [rowsFrom_append, hrest, List.append_nil]

theorem rowsFrom_seeking_eq_nil (h : ∀ line ∈ ls, ¬ HasHeaderWords line) :
    rowsFrom .seeking ls = [] := by
  rw [rowsFrom, scanFrom_seeking_eq_nil h, List.filterMap_nil]

/-- A log that begins with a header is inside the table at its second line. -/
theorem parse_header_append (log : String) :
    parse ("Runtime Min\n" ++ log) = rowsFrom .inside (lines log.toList) := by
  have hline : IsLine "Runtime Min".toList := ⟨by decide, by decide⟩
  have hlines : lines ("Runtime Min\n" ++ log).toList = "Runtime Min".toList :: lines log.toList := by
    rw [String.toList_append]
    exact lines_append_feed_of_isLine hline log.toList
  have hread : Line.read "Runtime Min".toList = .header := by decide
  rw [parse_eq_rowsFrom, hlines, rowsFrom_cons, hread]
  rfl

/-- A log in two parts, the first of which ends with a line feed. Its rows are those of the first
part and, if the first part has no header, those of the second one read as a log; if the first part
closes its table, no more; and otherwise those of the second part read below a header. So what
stands above the header or below the blank line does not count, and further lines take no row away. -/
theorem parse_append (t u : String) (ht : t = "" ∨ t.toList.getLast? = some '\n') :
    parse (t ++ u) = parse t ++
        (if ∀ line ∈ lines t.toList, ¬ HasHeaderWords line then parse u
        else if ∃ line ∈ belowHeader (lines t.toList), AllBlank line then []
        else parse ("Runtime Min\n" ++ u)) ∧
      ((∀ line ∈ lines t.toList, ¬ HasHeaderWords line) → parse (t ++ u) = parse u) ∧
      ((∃ line ∈ belowHeader (lines t.toList), AllBlank line) → parse (t ++ u) = parse t) ∧
      parse t <+: parse (t ++ u) := by
  have hlines : lines (t ++ u).toList = lines t.toList ++ lines u.toList := by
    rw [String.toList_append]
    refine lines_append (ht.imp_left fun h => ?_) u.toList
    rw [h, String.toList_empty]
  have hrows : parse (t ++ u) =
      parse t ++ rowsFrom (Stage.seeking.after (lines t.toList)) (lines u.toList) := by
    rw [parse_eq_rowsFrom, hlines, rowsFrom_append, ← parse_eq_rowsFrom]
  rw [Stage.after_seeking] at hrows
  refine ⟨?_, fun hno => ?_, fun hblank => ?_, ⟨_, hrows.symm⟩⟩
  · rw [hrows, parse_header_append, parse_eq_rowsFrom u]
    split_ifs <;> rfl
  · rw [hrows, if_pos hno, parse_eq_rowsFrom t, rowsFrom_seeking_eq_nil hno]
    rfl
  · have hheader : ¬ ∀ line ∈ lines t.toList, ¬ HasHeaderWords line := fun hno => by
      obtain ⟨line, hline, -⟩ := hblank
      rw [belowHeader_eq_nil hno] at hline
      cases hline
    rw [hrows, if_neg hheader, if_pos hblank, rowsFrom_closed, List.append_nil]

/-- The second part goes on with the table and closes it before its last row. -/
theorem parse_append_row_by_row :
    "Runtime Min\r\n| go | 1 | 5 | 3 |\r\n".toList.getLast? = some '\n' ∧
      parse ("Runtime Min\r\n| go | 1 | 5 | 3 |\r\n" ++
          "| rust | 1 | 2 | 1 |\r\n\r\n| late | 0 | 0 | 0 |") =
        [⟨"go", "1", "5", "3"⟩, ⟨"rust", "1", "2", "1"⟩] := by
  have hfeed : "Runtime Min\r\n| go | 1 | 5 | 3 |\r\n".toList.getLast? = some '\n' := by decide
  refine ⟨hfeed, ?_⟩
  rw [(parse_append _ _ (.inr hfeed)).1, if_neg (by decide), if_neg (by decide)]
  decide +kernel

end TimingTable
