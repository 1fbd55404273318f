import Mathlib.Data.List.Nodup
import TimingTable.Message
import TimingTable.Proofs.Stage

/-!
# Accounting for a scan

The messages of a scan and its rows come from the same lines: those from the header on, down to the
line that closes the table (`numberedTable`). Each of these lines is one of four things. A header is
announced, a line with a bar that is no row is quoted, one that is a row gives it, and prose gives
nothing; after them the closing line is announced, if there is one (`scan_eq`). The numbers of the
findings only grow (`pairwise_line_scanFrom`), so no line is found twice. `scan_accounts_for_lines`
puts this together: every line of the table with a bar has exactly one finding, and no other line has
one but headers and the closing line.
-/

namespace TimingTable
open Text

/-- The number of the first line with the words of a header, or one more than there are lines. -/
def headerNumber (ls : List (List Char)) : Nat := (ls.findIdx fun line => HasHeaderWords line) + 1

/-- The number of the first blank line below the header, or one more than there are lines. -/
def closingNumber (ls : List (List Char)) : Nat :=
  headerNumber ls + ((belowHeader ls).findIdx fun line => AllBlank line) + 1

/-- The lines from the header on, up to the one that closes the table, with their numbers. -/
def numberedTable (ls : List (List Char)) : List (List Char × Nat) :=
  (ls.zipIdx 1).filter fun l => headerNumber ls ≤ l.2 ∧ l.2 < closingNumber ls

/-- A line that is no row: its cells are too few, or the first is the name of the first column. -/
def IsRejected (line : List Char) : Prop :=
  (cells line).length < 4 ∨ (cells line).head? = some "Runtime".toList

instance : DecidablePred IsRejected := fun _ => inferInstanceAs (Decidable (_ ∨ _))

/-- The message about a numbered line of the table: a header is announced, and a line with a bar that
is no row is quoted without the blank characters around it. -/
def tableMessage? (l : List Char × Nat) : Option Message :=
  if HasHeaderWords l.1 then some (.headerOn l.2)
  else if '|' ∈ l.1 ∧ IsRejected l.1 then some (.skipped l.2 (.ofList (trim l.1)))
  else none

/-- The message about a numbered line of the table as it is shown, after its level. -/
def tableNote? (l : List Char × Nat) : Option String :=
  if HasHeaderWords l.1 then some ("TRACE Header trigger on line " ++ toString l.2)
  else if '|' ∈ l.1 ∧ IsRejected l.1 then
    some ("DEBUG Skipping line " ++ toString l.2 ++ ": " ++ quoted (.ofList (trim l.1)))
  else none

/-- What is found on a numbered line of the table. -/
def tableFinding? (l : List Char × Nat) : Option Finding :=
  Stage.inside.finding? l.2 (Line.read l.1)

variable {line : List Char} {ls above table rest : List (List Char)} {header : List Char} {n : Nat}
  {l : List Char × Nat} {log : String} {f : Finding} {s : Stage}

namespace Message

theorem line_headerOn (n : Nat) :
    (headerOn n).line = "TRACE Header trigger on line " ++ toString n := by
  have hline : (headerOn n).line = "TRACE" ++ " " ++ ("Header trigger on line " ++ toString n) := rfl
  rw [hline, ← String.append_assoc]
  rfl

theorem line_skipped (n : Nat) (text : String) :
    (skipped n text).line = "DEBUG Skipping line " ++ toString n ++ ": " ++ quoted text := by
  have hline : (skipped n text).line =
      "DEBUG" ++ " " ++ ("Skipping line " ++ toString n ++ ": " ++ quoted text) := rfl
  rw [hline, ← String.append_assoc, ← String.append_assoc, ← String.append_assoc]
  rfl

theorem line_closedOn (n : Nat) :
    (closedOn n).line = "TRACE Table closed by blank line " ++ toString n := by
  have hline : (closedOn n).line =
      "TRACE" ++ " " ++ ("Table closed by blank line " ++ toString n) := rfl
  rw [hline, ← String.append_assoc]
  rfl

end Message

theorem map_line_tableMessage? (l : List Char × Nat) :
    (tableMessage? l).map Message.line = tableNote? l := by
  rw [tableMessage?, tableNote?]
  split_ifs
  · rw [Option.map_some, Message.line_headerOn]
  · rw [Option.map_some, Message.line_skipped]
  · rfl

theorem not_allBlank_of_hasHeaderWords (h : HasHeaderWords line) : ¬ AllBlank line := by
  intro hb
  rw [← isHeader_iff_hasHeaderWords, not_isHeader_of_allBlank hb] at h
  cases h

theorem Row.ofLine?_eq_none_iff : Row.ofLine? line = none ↔ IsRejected line := by
  rw [Row.ofLine?, IsRejected]
  rcases cells line with _ | ⟨runtime, _ | ⟨min, _ | ⟨max, _ | ⟨avg, more⟩⟩⟩⟩
  · simp [Row.ofFields?]
  · simp [Row.ofFields?]
  · simp [Row.ofFields?]
  · simp [Row.ofFields?]
  · have hlong : ¬ (runtime :: min :: max :: avg :: more).length < 4 := by simp
    have hhead : String.ofList runtime = headerCell ↔ runtime = "Runtime".toList := by
      rw [← String.toList_inj, String.toList_ofList, headerCell]
    rw [or_iff_right hlong]
    simp [Row.ofFields?, hhead]

theorem not_isRejected_of_ofLine? {r : Row} (h : Row.ofLine? line = some r) : ¬ IsRejected line := by
  rw [← Row.ofLine?_eq_none_iff, h]
  exact nofun

/-- A line of the table is announced as a header, quoted, or without a message. -/
theorem bind_message?_tableFinding? (hb : ¬ AllBlank l.1) :
    (tableFinding? l).bind Finding.message? = tableMessage? l := by
  rw [tableFinding?, tableMessage?, Line.read_eq]
  simp only [isHeader_iff_hasHeaderWords, if_neg hb]
  by_cases hh : HasHeaderWords l.1
  · rw [if_pos hh, if_pos hh]
    rfl
  rw [if_neg hh, if_neg hh]
  by_cases hbar : '|' ∈ l.1
  · rw [if_neg (not_not_intro hbar)]
    cases hr : Row.ofLine? l.1 with
    | none =>
      rw [if_pos ⟨hbar, Row.ofLine?_eq_none_iff.1 hr⟩]
      rfl
    | some r =>
      rw [if_neg fun h => not_isRejected_of_ofLine? hr h.2]
      rfl
  · rw [if_pos hbar, if_neg fun h => hbar h.1]
    rfl

theorem bind_row?_tableFinding? (l : List Char × Nat) :
    (tableFinding? l).bind Finding.row? = Row.ofTableLine? l.1 := by
  rw [tableFinding?, Stage.bind_row?_finding?, if_pos rfl, row?_read_eq_ofTableLine?]

/-- The lines above the header, the header, the lines below it down to the closing line, and the rest
from the closing line on. -/
structure TableCut (ls above : List (List Char)) (header : List Char) (table rest : List (List Char)) :
    Prop where
  eq : ls = above ++ header :: (table ++ rest)
  above : ∀ line ∈ above, ¬ HasHeaderWords line
  header : HasHeaderWords header
  table : ∀ line ∈ table, ¬ AllBlank line
  rest : ∀ line ∈ rest.head?, AllBlank line

theorem exists_tableCut (h : ∃ line ∈ ls, HasHeaderWords line) :
    ∃ above header table rest, TableCut ls above header table rest := by
  have hsome : (ls.find? fun line => HasHeaderWords line).isSome := by simpa using h
  obtain ⟨header, hfind⟩ := Option.isSome_iff_exists.1 hsome
  obtain ⟨hheader, above, below, hls, habove⟩ := List.find?_eq_some_iff_append.1 hfind
  refine ⟨above, header, below.takeWhile fun line => ¬ AllBlank line,
    below.dropWhile fun line => ¬ AllBlank line, ?_, by simpa using habove, by simpa using hheader,
    fun line hline => by simpa using List.mem_takeWhile_imp hline, fun line hline => ?_⟩
  · rw [List.takeWhile_append_dropWhile, hls]
  · have hhead := List.head?_dropWhile_not (fun line => decide (¬ AllBlank line)) below
    rw [Option.mem_def.1 hline] at hhead
    simpa using hhead

namespace TableCut

theorem headerNumber_eq (h : TableCut ls above header table rest) :
    headerNumber ls = above.length + 1 := by
  have habove : (above.findIdx fun line => HasHeaderWords line) = above.length :=
    List.findIdx_eq_length.2 (by simpa using h.above)
  rw [headerNumber, h.eq, List.findIdx_append, habove, if_neg (Nat.lt_irrefl _), List.findIdx_cons]
  simp [h.header]

theorem belowHeader_eq (h : TableCut ls above header table rest) : belowHeader ls = table ++ rest := by
  have habove : ∀ line ∈ above, decide (¬ HasHeaderWords line) = true := by simpa using h.above
  rw [belowHeader, h.eq, List.dropWhile_append_of_pos habove,
    List.dropWhile_cons_of_neg (by simpa using h.header), List.drop_one, List.tail_cons]

theorem closingNumber_eq (h : TableCut ls above header table rest) :
    closingNumber ls = above.length + table.length + 2 := by
  have htable : (table.findIdx fun line => AllBlank line) = table.length :=
    List.findIdx_eq_length.2 (by simpa using h.table)
  have hrest : (rest.findIdx fun line => AllBlank line) = 0 := by
    cases hr : rest with
    | nil => rfl
    | cons line more =>
      have hline : AllBlank line := h.rest line (by rw [hr]; rfl)
      simp [List.findIdx_cons, hline]
  rw [closingNumber, h.headerNumber_eq, h.belowHeader_eq, List.findIdx_append, htable, hrest,
    if_neg (Nat.lt_irrefl _)]
  omega

theorem numberedTable_eq (h : TableCut ls above header table rest) :
    numberedTable ls = (header :: table).zipIdx (above.length + 1) := by
  rw [numberedTable, h.headerNumber_eq, h.closingNumber_eq, h.eq, ← List.cons_append,
    List.zipIdx_append, List.zipIdx_append, List.filter_append, List.filter_append]
  have habove : (above.zipIdx 1).filter (fun l => decide (above.length + 1 ≤ l.2 ∧
      l.2 < above.length + table.length + 2)) = [] := by
    refine List.filter_eq_nil_iff.2 fun l hl => ?_
    have hlt := List.snd_lt_add_of_mem_zipIdx hl
    simp only [decide_eq_true_eq]
    omega
  have htable : ((header :: table).zipIdx (1 + above.length)).filter (fun l =>
      decide (above.length + 1 ≤ l.2 ∧ l.2 < above.length + table.length + 2)) =
        (header :: table).zipIdx (1 + above.length) := by
    refine List.filter_eq_self.2 fun l hl => ?_
    have hle := List.le_snd_of_mem_zipIdx hl
    have hlt := List.snd_lt_add_of_mem_zipIdx hl
    rw [List.length_cons] at hlt
    simp only [decide_eq_true_eq]
    omega
  have hrest : (rest.zipIdx (1 + above.length + (header :: table).length)).filter (fun l =>
      decide (above.length + 1 ≤ l.2 ∧ l.2 < above.length + table.length + 2)) = [] := by
    refine List.filter_eq_nil_iff.2 fun l hl => ?_
    have hle := List.le_snd_of_mem_zipIdx hl
    rw [List.length_cons] at hle
    simp only [decide_eq_true_eq]
    omega
  rw [habove, htable, hrest, List.nil_append, List.append_nil, Nat.add_comm]

end TableCut

theorem headerNumber_of_forall (h : ∀ line ∈ ls, ¬ HasHeaderWords line) :
    headerNumber ls = ls.length + 1 := by
  rw [headerNumber, List.findIdx_eq_length.2 (by simpa using h)]

theorem numberedTable_of_forall (h : ∀ line ∈ ls, ¬ HasHeaderWords line) : numberedTable ls = [] := by
  refine List.filter_eq_nil_iff.2 fun l hl => ?_
  have hlt := List.snd_lt_add_of_mem_zipIdx hl
  rw [headerNumber_of_forall h]
  simp only [decide_eq_true_eq]
  omega

theorem not_allBlank_of_mem_numberedTable (h : l ∈ numberedTable ls) : ¬ AllBlank l.1 := by
  by_cases hex : ∃ line ∈ ls, HasHeaderWords line
  · obtain ⟨above, header, table, rest, hcut⟩ := exists_tableCut hex
    rw [hcut.numberedTable_eq] at h
    rcases List.mem_cons.1 (List.fst_mem_of_mem_zipIdx h) with hl | hl
    · exact hl ▸ not_allBlank_of_hasHeaderWords hcut.header
    · exact hcut.table _ hl
  · rw [numberedTable_of_forall fun line hline hh => hex ⟨line, hline, hh⟩] at h
    cases h

theorem scanFrom_inside_of_open (h : ∀ line ∈ ls, ¬ AllBlank line) (n : Nat) :
    scanFrom .inside n ls = (ls.zipIdx n).filterMap tableFinding? := by
  induction ls generalizing n with
  | nil => rfl
  | cons line ls ih =>
    obtain ⟨hline, hls⟩ := List.forall_mem_cons.1 h
    have hread : Line.read line ≠ .blank := by rwa [ne_eq, Line.read_eq_blank_iff]
    rw [scanFrom_cons, Stage.next_inside, if_neg hread, ih hls, List.zipIdx_cons,
      List.filterMap_cons, tableFinding?]
    cases Stage.inside.finding? n (Line.read line) <;> rfl

theorem scanFrom_inside_of_closing (h : ∀ line ∈ ls.head?, AllBlank line) (n : Nat) :
    scanFrom .inside n ls = if ls = [] then [] else [.closed n] := by
  cases ls with
  | nil => rfl
  | cons line ls =>
    rw [scanFrom_cons, Line.read_eq_blank_iff.2 (h line rfl), if_neg (List.cons_ne_nil line ls)]
    rfl

theorem TableCut.scanFrom_eq (h : TableCut ls above header table rest) :
    scanFrom .seeking 1 ls = ((header :: table).zipIdx (above.length + 1)).filterMap tableFinding? ++
      if rest = [] then [] else [.closed (above.length + table.length + 2)] := by
  have hread : Line.read header = .header :=
    Line.read_eq_header_iff.2 (isHeader_iff_hasHeaderWords.2 h.header)
  have hfound : tableFinding? (header, above.length + 1) = some (.header (above.length + 1)) := by
    rw [tableFinding?, hread]
    rfl
  have hopen : Stage.inside.after table = .inside := by
    rw [Stage.after_inside, if_neg]
    rintro ⟨line, hline, hb⟩
    exact h.table line hline hb
  have hbelow : scanFrom .inside (above.length + 2) (table ++ rest) =
      (table.zipIdx (above.length + 2)).filterMap tableFinding? ++
        if rest = [] then [] else [.closed (above.length + table.length + 2)] := by
    rw [scanFrom_append, scanFrom_inside_of_open h.table, hopen, scanFrom_inside_of_closing h.rest,
      Nat.add_right_comm]
  rw [h.eq, scanFrom_append, scanFrom_seeking_eq_nil h.above, Stage.after_seeking, if_pos h.above,
    scanFrom_cons, hread, Stage.finding?_seeking, Stage.next_seeking, if_pos rfl, if_pos rfl,
    List.zipIdx_cons, List.filterMap_cons_some hfound, Nat.add_comm 1, hbelow]
  rfl

/-- What a scan finds: the findings of the table, and the line that closes it if there is one. -/
theorem scan_eq (log : String) :
    scan log = (numberedTable (lines log.toList)).filterMap tableFinding? ++
      if closingNumber (lines log.toList) ≤ (lines log.toList).length
        then [.closed (closingNumber (lines log.toList))] else [] := by
  have hscan : scan log = scanFrom .seeking 1 (lines log.toList) := rfl
  rw [hscan]
  by_cases h : ∃ line ∈ lines log.toList, HasHeaderWords line
  · obtain ⟨above, header, table, rest, hcut⟩ := exists_tableCut h
    have hlast : closingNumber (lines log.toList) ≤ (lines log.toList).length ↔ rest ≠ [] := by
      rw [hcut.closingNumber_eq, hcut.eq, ← List.length_pos_iff]
      simp only [List.length_append, List.length_cons]
      omega
    rw [hcut.scanFrom_eq, hcut.numberedTable_eq, ← hcut.closingNumber_eq]
    simp only [hlast, ite_not]
  · have hno : ∀ line ∈ lines log.toList, ¬ HasHeaderWords line := fun line hline hh =>
      h ⟨line, hline, hh⟩
    have hlast : ¬ closingNumber (lines log.toList) ≤ (lines log.toList).length := by
      rw [closingNumber, headerNumber_of_forall hno]
      omega
    rw [scanFrom_seeking_eq_nil hno, numberedTable_of_forall hno, if_neg hlast]
    rfl

theorem Stage.line_of_finding? {k : Line} (h : s.finding? n k = some f) : f.line = n := by
  cases s <;> cases k <;> cases h <;> rfl

theorem le_line_of_mem_scanFrom (h : f ∈ scanFrom s n ls) : n ≤ f.line := by
  induction ls generalizing s n with
  | nil => simp [scanFrom_nil] at h
  | cons line ls ih =>
    rw [scanFrom_cons, List.mem_append, Option.mem_toList] at h
    rcases h with h | h
    · exact (Stage.line_of_finding? h).ge
    · exact Nat.le_of_succ_le (ih h)

/-- The findings come in the order of their lines, at most one for each. -/
theorem pairwise_line_scanFrom (s : Stage) (n : Nat) (ls : List (List Char)) :
    (scanFrom s n ls).Pairwise fun f g => f.line < g.line := by
  induction ls generalizing s n with
  | nil => simp [scanFrom_nil]
  | cons line ls ih =>
    rw [scanFrom_cons, List.pairwise_append]
    refine ⟨?_, ih _ _, fun f hf g hg => ?_⟩
    · cases s.finding? n (Line.read line) <;> simp
    · rw [Stage.line_of_finding? (Option.mem_toList.1 hf)]
      exact le_line_of_mem_scanFrom hg

/-- A line of the table gives a row where it has a bar and there is no message about it. -/
theorem isSome_ofTableLine?_iff :
    (Row.ofTableLine? l.1).isSome ↔ '|' ∈ l.1 ∧ tableMessage? l = none := by
  rw [← row?_read_eq_ofTableLine?, Line.row?_read, tableMessage?]
  simp only [isHeader_iff_hasHeaderWords]
  by_cases hh : HasHeaderWords l.1
  · simp [hh]
  · cases hr : Row.ofLine? l.1 with
    | none => simp [hh, Row.ofLine?_eq_none_iff.1 hr]
    | some r => simp [hh, Row.bar_mem_of_ofLine? hr, not_isRejected_of_ofLine? hr]

theorem exists_tableFinding? (h : '|' ∈ l.1) : ∃ f, tableFinding? l = some f := by
  have hread : Line.read l.1 ≠ .prose := by
    rw [Line.read_eq]
    split_ifs
    · exact nofun
    · exact nofun
    · split <;> exact nofun
  rw [tableFinding?]
  cases hk : Line.read l.1 with
  | prose => exact absurd hk hread
  | header | blank | row | rejected => exact ⟨_, rfl⟩

theorem eq_of_line_eq {g : Finding} (hf : f ∈ scan log) (hg : g ∈ scan log) (h : f.line = g.line) :
    f = g := by
  have hnodup : ((scan log).map Finding.line).Nodup :=
    List.pairwise_map.2 ((pairwise_line_scanFrom .seeking 1 (lines log.toList)).imp Nat.ne_of_lt)
  exact List.inj_on_of_nodup_map hnodup hf hg h

theorem forall₂_filter_filterMap {α β : Type} {f : α → Option β} {p : α → Bool} {xs : List α}
    (h : ∀ x ∈ xs, p x = (f x).isSome) :
    List.Forall₂ (fun x y => f x = some y) (xs.filter p) (xs.filterMap f) := by
  induction xs with
  | nil => exact .nil
  | cons x xs ih =>
    obtain ⟨hx, hxs⟩ := List.forall_mem_cons.1 h
    cases hf : f x with
    | none =>
      rw [List.filter_cons_of_neg (by simp [hx, hf]), List.filterMap_cons_none hf]
      exact ih hxs
    | some y =>
      rw [List.filter_cons_of_pos (by simp [hx, hf]), List.filterMap_cons_some hf]
      exact .cons hf (ih hxs)

theorem scanMessages_eq (log : String) :
    scanMessages log = (numberedTable (lines log.toList)).filterMap tableMessage? ++
      if closingNumber (lines log.toList) ≤ (lines log.toList).length
        then [.closedOn (closingNumber (lines log.toList))] else [] := by
  rw [scanMessages, scan_eq, List.filterMap_append, List.filterMap_filterMap]
  congr 1
  · exact List.filterMap_congr fun l hl =>
      bind_message?_tableFinding? (not_allBlank_of_mem_numberedTable hl)
  · split <;> rfl

theorem map_line_scanMessages (log : String) : (scanMessages log).map Message.line =
    (numberedTable (lines log.toList)).filterMap tableNote? ++
      if closingNumber (lines log.toList) ≤ (lines log.toList).length
        then ["TRACE Table closed by blank line " ++ toString (closingNumber (lines log.toList))]
        else [] := by
  rw [scanMessages_eq, List.map_append, List.map_filterMap]
  simp only [map_line_tableMessage?]
  congr 1
  split
  · rw [List.map_singleton, Message.line_closedOn]
  · rfl

theorem parse_eq_filterMap_numberedTable (log : String) :
    parse log = (numberedTable (lines log.toList)).filterMap fun l => Row.ofTableLine? l.1 := by
  rw [parse, scan_eq, List.filterMap_append, List.filterMap_filterMap]
  simp only [bind_row?_tableFinding?]
  split <;> simp [Finding.row?]

theorem existsUnique_finding (hl : l ∈ numberedTable (lines log.toList)) (hbar : '|' ∈ l.1) :
    ∃! f, f ∈ scan log ∧ f.line = l.2 := by
  obtain ⟨f, hfound⟩ := exists_tableFinding? hbar
  have hline : f.line = l.2 := Stage.line_of_finding? hfound
  have hf : f ∈ scan log := by
    rw [scan_eq]
    exact List.mem_append_left _ (List.mem_filterMap.2 ⟨l, hl, hfound⟩)
  exact ⟨f, ⟨hf, hline⟩, fun g ⟨hg, hgl⟩ => eq_of_line_eq hg hf (hgl.trans hline.symm)⟩

theorem line_bounds_of_mem_scan (hf : f ∈ scan log) :
    headerNumber (lines log.toList) ≤ f.line ∧ f.line ≤ closingNumber (lines log.toList) := by
  rw [scan_eq, List.mem_append] at hf
  rcases hf with hf | hf
  · obtain ⟨l, hl, hfound⟩ := List.mem_filterMap.1 hf
    have hrange := (List.mem_filter.1 hl).2
    rw [decide_eq_true_eq] at hrange
    rw [Stage.line_of_finding? hfound]
    exact ⟨hrange.1, hrange.2.le⟩
  · have hlast : f = .closed (closingNumber (lines log.toList)) := by
      split at hf
      · exact List.mem_singleton.1 hf
      · cases hf
    have hle : headerNumber (lines log.toList) ≤ closingNumber (lines log.toList) := by
      rw [closingNumber]
      omega
    exact hlast ▸ ⟨hle, Nat.le_refl _⟩

/-- A scan accounts for the lines of a log. Without a header it tells nothing and gives no row.
Otherwise its messages are, in the order of the lines, those about the table and then the closing line,
and its rows are those of the lines with a bar that there is no message about. So each line of the
table with a bar is found once, as a header, a rejected line or a row, and nothing is found above the
header or below the closing line. -/
theorem scan_accounts_for_lines (log : String) :
    ((∀ line ∈ lines log.toList, ¬ HasHeaderWords line) → scanMessages log = [] ∧ parse log = []) ∧
    scanMessages log = (numberedTable (lines log.toList)).filterMap tableMessage? ++
      (if closingNumber (lines log.toList) ≤ (lines log.toList).length
        then [.closedOn (closingNumber (lines log.toList))] else []) ∧
    (scanMessages log).map Message.line = (numberedTable (lines log.toList)).filterMap tableNote? ++
      (if closingNumber (lines log.toList) ≤ (lines log.toList).length
        then ["TRACE Table closed by blank line " ++ toString (closingNumber (lines log.toList))]
        else []) ∧
    List.Forall₂ (fun l r => Row.ofTableLine? l.1 = some r)
      ((numberedTable (lines log.toList)).filter fun l => '|' ∈ l.1 ∧ tableMessage? l = none)
      (parse log) ∧
    (∀ l ∈ numberedTable (lines log.toList), '|' ∈ l.1 → ∃! f, f ∈ scan log ∧ f.line = l.2) ∧
    ((scan log).Pairwise fun f g => f.line < g.line) ∧
    ∀ f ∈ scan log, headerNumber (lines log.toList) ≤ f.line ∧
      f.line ≤ closingNumber (lines log.toList) := by
  refine ⟨fun hno => ?_, scanMessages_eq log, map_line_scanMessages log, ?_,
    fun l hl hbar => existsUnique_finding hl hbar,
    pairwise_line_scanFrom .seeking 1 (lines log.toList), fun f hf => line_bounds_of_mem_scan hf⟩
  · have hscan : scan log = [] := scanFrom_seeking_eq_nil hno 1
    rw [scanMessages, parse, hscan]
    exact ⟨rfl, rfl⟩
  · rw [parse_eq_filterMap_numberedTable]
    refine forall₂_filter_filterMap fun l _ => ?_
    rw [Bool.eq_iff_iff, decide_eq_true_iff, isSome_ofTableLine?_iff]

/-- A row above the header and one below the closing line are no concern of the scan. -/
theorem scan_accounts_for_lines_sample :
    (∀ line ∈ lines "warming up\n".toList, ¬ HasHeaderWords line) ∧
      scanMessages "warming up\n" = [] ∧
    scanMessages ("| early | 1 | 2 | 3 |\nRuntime Min\r\n | go | 1 | 5 |\r\nwarming up\n" ++
        "| Runtime | Min |\n| rust | 1 | 2 | 1 |\n\t\n| late | 0 | 0 | 0 |") =
      [.headerOn 2, .skipped 3 "| go | 1 | 5 |", .headerOn 5, .closedOn 7] := by
  have hno : ∀ line ∈ lines "warming up\n".toList, ¬ HasHeaderWords line := by decide
  refine ⟨hno, ((scan_accounts_for_lines _).1 hno).1, ?_⟩
  rw [(scan_accounts_for_lines _).2.1]
  decide +kernel

end TimingTable
