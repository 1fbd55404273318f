import TimingTable.Line
import TimingTable.Text.Lines
import TimingTable.Proofs.Text.Trim

/-!
# Cells of a line

`cells` goes through a bar (`cells_append_bar`) and does not see blank characters at the ends of a
line (`cells_trim`), so it is known from its value on texts without a bar (`cells_of_bar_not_mem`).
Every cell is a text that can only be cut into itself (`IsCell`, `cells_eq_singleton`). A word
without bars and blank characters stands in a line exactly where it stands in one of its cells
(`exists_infix_cells_iff`), so the cells of a line tell whether it is a header
(`isHeader_iff_announces`), and which row it holds (`Row.ofLine?_eq_some_iff`).
-/

namespace TimingTable
open Text

/-- A text that is one cell, exactly as it is: not empty, without blank ends and without a bar. -/
structure IsCell (s : List Char) : Prop where
  ne_nil : s ≠ []
  trimmed : Trimmed s
  no_bar : '|' ∉ s

/-- Both words of a header stand in some of the texts, in the same one or in two. -/
def Announces (ts : List (List Char)) : Prop :=
  (∃ t ∈ ts, "Runtime".toList <:+: t) ∧ ∃ t ∈ ts, "Min".toList <:+: t

instance : DecidablePred Announces := fun _ => inferInstanceAs (Decidable (_ ∧ _))

variable {a b s w line : List Char} {r : Row}

theorem cells_of_bar_not_mem (h : '|' ∉ s) : cells s = if trim s = [] then [] else [trim s] := by
  rw [cells, List.splitOn_eq_singleton h, List.map_singleton, List.filter_cons, List.filter_nil]
  split <;> simp_all

theorem bar_not_mem_of_allBlank (h : AllBlank s) : '|' ∉ s := h.not_mem (by decide)

theorem cells_of_allBlank (h : AllBlank s) : cells s = [] := by
  rw [cells_of_bar_not_mem (bar_not_mem_of_allBlank h), if_pos (trim_eq_nil_iff.2 h)]

theorem cells_nil : cells [] = [] := cells_of_allBlank .nil

theorem cells_bar_cons (s : List Char) : cells ('|' :: s) = cells s := by
  rw [← List.nil_append ('|' :: s), cells_append_bar, cells_nil, List.nil_append]

theorem cells_eq_singleton (h : IsCell s) : cells s = [s] := by
  rw [cells_of_bar_not_mem h.no_bar, h.trimmed.trim_eq, if_neg h.ne_nil]

theorem cells_append_of_allBlank_left (ha : AllBlank a) : cells (a ++ s) = cells s := by
  have hbar : '|' ∉ a := bar_not_mem_of_allBlank ha
  induction s using pieceInduction '|' with
  | last p hp =>
    have hap : '|' ∉ a ++ p := by simp [hbar, hp]
    rw [cells_of_bar_not_mem hap, cells_of_bar_not_mem hp, trim_append_of_allBlank_left ha]
  | cons p t hp _ =>
    have hap : '|' ∉ a ++ p := by simp [hbar, hp]
    rw [← List.append_assoc, cells_append_bar, cells_append_bar, cells_of_bar_not_mem hap,
      cells_of_bar_not_mem hp, trim_append_of_allBlank_left ha]

theorem cells_append_of_allBlank (hb : AllBlank b) : cells (s ++ b) = cells s := by
  induction s using pieceInduction '|' with
  | last p hp =>
    have hpb : '|' ∉ p ++ b := by simp [bar_not_mem_of_allBlank hb, hp]
    rw [cells_of_bar_not_mem hpb, cells_of_bar_not_mem hp, trim_append_of_allBlank hb]
  | cons p t _ ih => rw [List.append_assoc, List.cons_append, cells_append_bar, cells_append_bar, ih]

/-- Blank characters at the ends of a line belong to no cell. -/
theorem cells_trim (s : List Char) : cells (trim s) = cells s := by
  obtain ⟨a, b, ha, hb, hs⟩ := exists_eq_append_trim s
  conv_rhs => rw [hs, cells_append_of_allBlank_left ha, cells_append_of_allBlank hb]

theorem exists_mem_splitOn_of_mem_cells {c : List Char} (h : c ∈ cells s) :
    c ≠ [] ∧ ∃ p ∈ s.splitOn '|', trim p = c := by
  obtain ⟨hc, hne⟩ := List.mem_filter.1 h
  exact ⟨by simpa using hne, List.mem_map.1 hc⟩

theorem isCell_of_mem_cells {c : List Char} (h : c ∈ cells s) : IsCell c := by
  obtain ⟨hne, p, hp, rfl⟩ := exists_mem_splitOn_of_mem_cells h
  exact ⟨hne, trimmed_trim p, fun hmem => not_mem_of_mem_splitOn hp (mem_of_mem_trim hmem)⟩

theorem subset_of_mem_cells {c : List Char} (h : c ∈ cells s) : c ⊆ s := by
  obtain ⟨-, p, hp, rfl⟩ := exists_mem_splitOn_of_mem_cells h
  exact fun x hx => subset_of_mem_splitOn hp (mem_of_mem_trim hx)

/-- A word without bars and blank characters stands in a line where it stands in a cell of it. -/
theorem exists_infix_cells_iff (hne : w ≠ []) (hw : ∀ c ∈ w, isBlank c = false) (hbar : '|' ∉ w) :
    (∃ c ∈ cells s, w <:+: c) ↔ w <:+: s := by
  have hpiece : ∀ p, '|' ∉ p → ((∃ c ∈ cells p, w <:+: c) ↔ w <:+: p) := by
    intro p hp
    rw [cells_of_bar_not_mem hp, ← infix_trim_iff (s := p) hne hw]
    split
    · next hnil => simp [hnil, hne]
    · simp
  induction s using pieceInduction '|' with
  | last p hp => exact hpiece p hp
  | cons p t hp ih =>
    have hor : (∃ c ∈ cells p ++ cells t, w <:+: c) ↔
        (∃ c ∈ cells p, w <:+: c) ∨ ∃ c ∈ cells t, w <:+: c := by
      simp [or_and_right, exists_or]
    rw [cells_append_bar, hor, infix_append_cons_iff hbar]
    exact or_congr (hpiece p hp) ih

/-- The cells of a line tell whether it is a header. -/
theorem isHeader_iff_announces : isHeader line = true ↔ Announces (cells line) := by
  rw [isHeader, Bool.and_eq_true, hasWord_iff, hasWord_iff, Announces,
    exists_infix_cells_iff (by decide) (by simp [isBlank]) (by decide),
    exists_infix_cells_iff (by decide) (by simp [isBlank]) (by decide)]

theorem not_isHeader_of_allBlank (h : AllBlank line) : isHeader line = false := by
  rw [Bool.eq_false_iff, ne_eq, isHeader_iff_announces, cells_of_allBlank h]
  decide

namespace Row

theorem ofFields?_eq_some_iff {fs : List String} : ofFields? fs = some r ↔ r.fields <+: fs := by
  constructor
  · intro h
    match fs with
    | [] | [_] | [_, _] | [_, _, _] => simp [ofFields?] at h
    | runtime :: min :: max :: avg :: more =>
      rw [ofFields?, Option.some.injEq] at h
      exact h ▸ ⟨more, rfl⟩
  · rintro ⟨more, rfl⟩
    rfl

/-- A line holds the row of its first four cells, unless the first one is the name of the column. -/
theorem ofLine?_eq_some_iff :
    ofLine? line = some r ↔ r.fields.map String.toList <+: cells line ∧ r.runtime ≠ headerCell := by
  have hpre : r.fields <+: (cells line).map String.ofList ↔
      r.fields.map String.toList <+: cells line := by
    constructor <;> intro h
    · simpa [Function.comp_def] using h.map String.toList
    · simpa [Function.comp_def] using h.map String.ofList
  rw [ofLine?, Option.filter_eq_some_iff, ofFields?_eq_some_iff, hpre, decide_eq_true_eq]

end Row

end TimingTable
