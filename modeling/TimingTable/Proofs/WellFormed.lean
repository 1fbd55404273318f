import TimingTable.Proofs.Table

/-!
# Well-formed rows

A row is well-formed when each of its fields is a cell without a line feed, its runtime is not the
name of the first column, and its fields together do not hold the words of a header. The rows of
every log are so (`wellFormed_of_mem_parse`): a field is a cell of its line, and a line with the
words of a header in two of its cells is a header and no row.
-/

namespace TimingTable
open Text

theorem Announces.mono {ts us : List (List Char)} (h : Announces ts) (hsub : ts ⊆ us) :
    Announces us := by
  obtain ⟨⟨a, ha, hra⟩, b, hb, hmb⟩ := h
  exact ⟨⟨a, hsub ha, hra⟩, b, hsub hb, hmb⟩

/-- A row that can stand in the table of a log. -/
structure Row.WellFormed (r : Row) : Prop where
  cell : ∀ f ∈ r.fields, IsCell f.toList
  no_feed : ∀ f ∈ r.fields, '\n' ∉ f.toList
  runtime_ne : r.runtime ≠ "Runtime"
  not_announces : ¬ Announces (r.fields.map String.toList)

theorem isCell_iff {s : List Char} : IsCell s ↔ s ≠ [] ∧ Trimmed s ∧ '|' ∉ s :=
  ⟨fun h => ⟨h.ne_nil, h.trimmed, h.no_bar⟩, fun ⟨hne, ht, hbar⟩ => ⟨hne, ht, hbar⟩⟩

instance : DecidablePred IsCell := fun _ => decidable_of_iff _ isCell_iff.symm

theorem Row.wellFormed_iff {r : Row} : r.WellFormed ↔ (∀ f ∈ r.fields, IsCell f.toList) ∧
    (∀ f ∈ r.fields, '\n' ∉ f.toList) ∧ r.runtime ≠ "Runtime" ∧
    ¬ Announces (r.fields.map String.toList) :=
  ⟨fun h => ⟨h.cell, h.no_feed, h.runtime_ne, h.not_announces⟩,
    fun ⟨hcell, hfeed, hruntime, hann⟩ => ⟨hcell, hfeed, hruntime, hann⟩⟩

instance : DecidablePred Row.WellFormed := fun _ => decidable_of_iff _ Row.wellFormed_iff.symm

variable {line : List Char} {log : String} {r : Row}

/-- The row of a line that was read is well-formed. -/
theorem Row.wellFormed_of_read (hfeed : '\n' ∉ line) (h : Line.read line = .row r) :
    r.WellFormed := by
  obtain ⟨hh, hr⟩ := Line.read_eq_row_iff.1 h
  obtain ⟨hpre, hne⟩ := Row.ofLine?_eq_some_iff.1 hr
  have hmem : ∀ f ∈ r.fields, f.toList ∈ cells line := fun f hf =>
    hpre.subset (List.mem_map_of_mem hf)
  refine ⟨fun f hf => isCell_of_mem_cells (hmem f hf), fun f hf hn => ?_, hne, fun ha => ?_⟩
  · exact hfeed (subset_of_mem_cells (hmem f hf) hn)
  · have hheader : isHeader line = true := isHeader_iff_announces.2 (ha.mono hpre.subset)
    rw [hh] at hheader
    cases hheader

theorem Line.table_subset (ks : List Line) : Line.table ks ⊆ ks := fun _ hk =>
  (List.dropWhile_subset _) (List.mem_of_mem_drop ((List.takeWhile_subset _) hk))

theorem exists_line_of_mem_parse (h : r ∈ parse log) :
    ∃ line ∈ lines log.toList, Line.read line = .row r := by
  rw [parse_eq_filterMap_table] at h
  obtain ⟨k, hk, hr⟩ := List.mem_filterMap.1 h
  obtain ⟨line, hline, rfl⟩ := List.mem_map.1 (Line.table_subset _ hk)
  exact ⟨line, hline, Line.row?_eq_some_iff.1 hr⟩

/-- The rows of a log are well-formed. -/
theorem wellFormed_of_mem_parse (h : r ∈ parse log) : r.WellFormed := by
  obtain ⟨line, hline, hr⟩ := exists_line_of_mem_parse h
  exact Row.wellFormed_of_read (not_mem_of_mem_lines hline) hr

end TimingTable
