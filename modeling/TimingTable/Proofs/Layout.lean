import Mathlib.Data.List.Forall2
import Mathlib.Logic.Relation
import TimingTable.Proofs.Stage

/-!
# Layout of a log

Two lines have the same content (`SameContent`) when trimming makes them equal, or when both have
bars and the same cells between them. A scan cannot tell such lines apart: the words of a header, the
blank test and the row of a line depend on its content alone, so a line of the same content gives the
same row and leads to the same stage (`rowsFrom_congr`). It follows that a carriage return before a
line feed does not matter, nor does a blank line at the end, so the rows of a log are those of its
pieces between the line feeds (`parse_eq_rowsFrom_splitOn`). `parse_eq_of_sameContent` puts this
together: logs with lines of the same content have the same rows, however they are laid out.
-/

namespace TimingTable
open Text

/-- Two lines that differ in nothing but their layout. -/
def SameContent (a b : List Char) : Prop :=
  trim a = trim b ∨ '|' ∈ a ∧ '|' ∈ b ∧ cells a = cells b

instance : DecidableRel SameContent := fun _ _ => inferInstanceAs (Decidable (_ ∨ _))

namespace SameContent
variable {a b c : List Char}

theorem refl (a : List Char) : SameContent a a := .inl rfl

theorem symm (h : SameContent a b) : SameContent b a := by
  rcases h with h | ⟨ha, hb, h⟩
  · exact .inl h.symm
  · exact .inr ⟨hb, ha, h.symm⟩

theorem cells_eq (h : SameContent a b) : cells a = cells b := by
  rcases h with h | ⟨-, -, h⟩
  · rw [← cells_trim a, h, cells_trim]
  · exact h

theorem bar_mem_iff (h : SameContent a b) : '|' ∈ a ↔ '|' ∈ b := by
  rcases h with h | ⟨ha, hb, -⟩
  · have hbar : isBlank '|' = false := by decide
    rw [← mem_trim_iff hbar, h, mem_trim_iff hbar]
  · exact iff_of_true ha hb

theorem trans (h₁ : SameContent a b) (h₂ : SameContent b c) : SameContent a c := by
  by_cases hb : '|' ∈ b
  · exact .inr ⟨h₁.bar_mem_iff.2 hb, h₂.bar_mem_iff.1 hb, h₁.cells_eq.trans h₂.cells_eq⟩
  · -- without bars both pairs are equal after trimming
    have ht₁ : trim a = trim b := h₁.resolve_right fun h => hb h.2.1
    have ht₂ : trim b = trim c := h₂.resolve_right fun h => hb h.1
    exact .inl (ht₁.trans ht₂)

theorem isHeader_eq (h : SameContent a b) : isHeader a = isHeader b := by
  rw [Bool.eq_iff_iff, isHeader_iff_announces, isHeader_iff_announces, h.cells_eq]

theorem allBlank_iff (h : SameContent a b) : AllBlank a ↔ AllBlank b := by
  rcases h with h | ⟨ha, hb, -⟩
  · rw [← trim_eq_nil_iff, h, trim_eq_nil_iff]
  · exact iff_of_false (fun hn => bar_not_mem_of_allBlank hn ha) fun hn => bar_not_mem_of_allBlank hn hb

theorem row?_read_eq (h : SameContent a b) : (Line.read a).row? = (Line.read b).row? := by
  rw [Line.row?_read, Line.row?_read, h.isHeader_eq, Row.ofLine?, Row.ofLine?, h.cells_eq]

theorem next_read_eq (h : SameContent a b) (s : Stage) : s.next (Line.read a) = s.next (Line.read b) := by
  cases s with
  | seeking => simp only [Stage.next_seeking, Line.read_eq_header_iff, h.isHeader_eq]
  | inside => simp only [Stage.next_inside, Line.read_eq_blank_iff, h.allBlank_iff]
  | closed => rfl

theorem append_of_allBlank (hb : AllBlank b) : SameContent (a ++ b) a :=
  .inl (trim_append_of_allBlank hb)

theorem append_of_allBlank_left (ha : AllBlank a) : SameContent (a ++ b) b :=
  .inl (trim_append_of_allBlank_left ha)

theorem dropReturn (line : List Char) : SameContent (dropReturn line) line := by
  unfold Text.dropReturn
  split
  · next h =>
    obtain ⟨p, rfl⟩ := List.getLast?_eq_some_iff.1 h
    have hreturn : AllBlank ['\r'] := by decide
    rw [List.dropLast_concat]
    exact (append_of_allBlank hreturn).symm
  · exact refl line

end SameContent

variable {a b s t w : List Char} {ls ms : List (List Char)}

/-- Lines of the same content give the same rows. -/
theorem rowsFrom_congr (h : List.Forall₂ SameContent ls ms) (st : Stage) :
    rowsFrom st ls = rowsFrom st ms := by
  induction h generalizing st with
  | nil => rfl
  | cons hline _ ih =>
    rw [rowsFrom_cons, rowsFrom_cons, hline.row?_read_eq, hline.next_read_eq, ih]

theorem rowsFrom_of_allBlank (st : Stage) (h : ∀ line ∈ ls, AllBlank line) : rowsFrom st ls = [] := by
  induction ls generalizing st with
  | nil => exact rowsFrom_nil st
  | cons line ls ih =>
    obtain ⟨hline, hls⟩ := List.forall_mem_cons.1 h
    rw [rowsFrom_cons, Line.read_eq_blank_iff.2 hline, ih _ hls]
    cases st <;> rfl

/-- A carriage return that ends a piece does not matter, and neither does an empty last piece. -/
theorem rowsFrom_linesOfPieces (st : Stage) (ps : List (List Char)) :
    rowsFrom st (linesOfPieces ps) = rowsFrom st ps := by
  induction ps using linesOfPieces.induct generalizing st with
  | case1 => rfl
  | case2 =>
    have hnil : ∀ line ∈ ([[]] : List (List Char)), AllBlank line := by decide
    rw [linesOfPieces, if_pos rfl, rowsFrom_nil, rowsFrom_of_allBlank st hnil]
  | case3 p hp => rw [linesOfPieces, if_neg hp]
  | case4 p q ps ih =>
    have hp : SameContent (dropReturn p) p := .dropReturn p
    rw [linesOfPieces, rowsFrom_cons, ih, hp.row?_read_eq, hp.next_read_eq, ← rowsFrom_cons]

theorem parse_eq_rowsFrom_splitOn (log : String) :
    parse log = rowsFrom .seeking (log.toList.splitOn '\n') := by
  rw [parse_eq_rowsFrom, lines, rowsFrom_linesOfPieces]

theorem parse_eq_of_forall₂_splitOn {log log' : String}
    (h : List.Forall₂ SameContent (log.toList.splitOn '\n') (log'.toList.splitOn '\n')) :
    parse log = parse log' := by
  rw [parse_eq_rowsFrom_splitOn, rowsFrom_congr h, ← parse_eq_rowsFrom_splitOn]

/-- The rows of a line, a line feed and a text. -/
theorem rowsFrom_splitOn_append_feed (ha : '\n' ∉ a) (st : Stage) (s : List Char) :
    rowsFrom st ((a ++ '\n' :: s).splitOn '\n') =
      (if st = .inside then (Line.read a).row? else none).toList ++
        rowsFrom (st.next (Line.read a)) (s.splitOn '\n') := by
  rw [List.splitOn_append_cons_self_of_not_mem ha, rowsFrom_cons]

/-- One change to the layout of a line. -/
inductive Retouch : List Char → List Char → Prop
  | indent {w : List Char} (line : List Char) (hw : AllBlank w) : Retouch line (w ++ line)
  | trail {w : List Char} (line : List Char) (hw : AllBlank w) : Retouch line (line ++ w)
  /-- Blank characters put around a bar. -/
  | align {v w : List Char} (a b : List Char) (hv : AllBlank v) (hw : AllBlank w) :
    Retouch (a ++ '|' :: b) (a ++ v ++ '|' :: (w ++ b))
  | double (a b : List Char) : Retouch (a ++ '|' :: b) (a ++ '|' :: '|' :: b)
  | lead {line : List Char} (h : '|' ∈ line) : Retouch line ('|' :: line)
  | close {line : List Char} (h : '|' ∈ line) : Retouch line (line ++ ['|'])

theorem Retouch.sameContent (h : Retouch a b) : SameContent a b := by
  cases h with
  | indent line hw => exact (SameContent.append_of_allBlank_left hw).symm
  | trail line hw => exact (SameContent.append_of_allBlank hw).symm
  | align a b hv hw =>
    refine .inr ⟨by simp, by simp, ?_⟩
    rw [cells_append_bar, cells_append_bar, cells_append_of_allBlank hv,
      cells_append_of_allBlank_left hw]
  | double a b =>
    refine .inr ⟨by simp, by simp, ?_⟩
    rw [cells_append_bar, cells_append_bar, cells_bar_cons]
  | lead h => exact .inr ⟨h, by simp, (cells_bar_cons _).symm⟩
  | close h =>
    refine .inr ⟨h, by simp, ?_⟩
    rw [cells_append_bar, cells_nil, List.append_nil]

/-- Lines that any number of such changes, made or undone, lead from one to the other. -/
def Relaid : List Char → List Char → Prop := Relation.EqvGen Retouch

theorem Relaid.sameContent (h : Relaid a b) : SameContent a b := by
  induction h with
  | rel _ _ h => exact h.sameContent
  | refl line => exact .refl line
  | symm _ _ _ ih => exact ih.symm
  | trans _ _ _ _ _ ih₁ ih₂ => exact ih₁.trans ih₂

namespace Text

/-- The text with a carriage return put before every line feed. -/
def withReturns (s : List Char) : List Char :=
  s.flatMap fun c => if c = '\n' then ['\r', '\n'] else [c]

theorem withReturns_append_feed (s t : List Char) :
    withReturns (s ++ '\n' :: t) = withReturns s ++ '\r' :: '\n' :: withReturns t := by
  simp [withReturns]

theorem withReturns_eq_self (h : '\n' ∉ s) : withReturns s = s := by
  have hsingle : ∀ c ∈ s, (if c = '\n' then ['\r', '\n'] else [c]) = [c] := fun c hc =>
    if_neg (ne_of_mem_of_not_mem hc h)
  rw [withReturns, List.flatMap_congr hsingle, List.flatMap_singleton']

end Text

theorem forall₂_splitOn_withReturns (s : List Char) :
    List.Forall₂ SameContent ((withReturns s).splitOn '\n') (s.splitOn '\n') := by
  induction s using pieceInduction '\n' with
  | last p hp =>
    rw [withReturns_eq_self hp]
    exact List.forall₂_same.2 fun line _ => .refl line
  | cons p s hp ih =>
    have hreturn : AllBlank ['\r'] := by decide
    have hpr : '\n' ∉ p ++ ['\r'] := by simp [hp]
    rw [withReturns_append_feed, withReturns_eq_self hp, List.append_cons,
      List.splitOn_append_cons_self_of_not_mem hpr, List.splitOn_append_cons_self_of_not_mem hp]
    exact .cons (.append_of_allBlank hreturn) ih

/-- Blank characters after a text, line feeds among them, give no rows. -/
theorem rowsFrom_splitOn_append_of_allBlank (hw : AllBlank w) (st : Stage) (s : List Char) :
    rowsFrom st ((s ++ w).splitOn '\n') = rowsFrom st (s.splitOn '\n') := by
  induction s using pieceInduction '\n' generalizing st with
  | last p hp =>
    by_cases hfeed : '\n' ∈ w
    · obtain ⟨q, v, rfl, hq⟩ := List.eq_append_cons_of_mem hfeed
      have hpq : '\n' ∉ p ++ q := by simp [hp, hq]
      have hline : SameContent (p ++ q) p := .append_of_allBlank fun c hc => hw c (by simp [hc])
      have hrest : ∀ line ∈ v.splitOn '\n', AllBlank line := fun line hl c hc =>
        hw c (by simp [subset_of_mem_splitOn hl hc])
      rw [← List.append_assoc, rowsFrom_splitOn_append_feed hpq, rowsFrom_of_allBlank _ hrest,
        List.splitOn_eq_singleton hp, rowsFrom_cons, rowsFrom_nil, hline.row?_read_eq]
    · have hpw : '\n' ∉ p ++ w := by simp [hp, hfeed]
      rw [List.splitOn_eq_singleton hp, List.splitOn_eq_singleton hpw]
      exact rowsFrom_congr (.cons (.append_of_allBlank hw) .nil) st
  | cons p s hp ih =>
    rw [List.append_assoc, List.cons_append, rowsFrom_splitOn_append_feed hp, ih,
      rowsFrom_splitOn_append_feed hp]

/-- Within a text, a stretch without line feeds can be replaced by another one that stands for the
same content in every line. -/
theorem rowsFrom_splitOn_replace (ha : '\n' ∉ a) (hb : '\n' ∉ b)
    (h : ∀ p q, SameContent (p ++ (a ++ q)) (p ++ (b ++ q))) (st : Stage) (s t : List Char) :
    rowsFrom st ((s ++ (a ++ t)).splitOn '\n') = rowsFrom st ((s ++ (b ++ t)).splitOn '\n') := by
  induction s using pieceInduction '\n' generalizing st with
  | last p hp =>
    -- the stretch stands in the first line, which ends where `t` has its first line feed
    have hline : ∀ x q, '\n' ∉ x → '\n' ∉ q → '\n' ∉ p ++ (x ++ q) := by simp +contextual [hp]
    induction t using pieceInduction '\n' with
    | last q hq =>
      rw [List.splitOn_eq_singleton (hline a q ha hq), List.splitOn_eq_singleton (hline b q hb hq)]
      exact rowsFrom_congr (.cons (h p q) .nil) st
    | cons q t hq _ =>
      have hassoc : ∀ x, p ++ (x ++ (q ++ '\n' :: t)) = (p ++ (x ++ q)) ++ '\n' :: t := by simp
      rw [hassoc, hassoc, rowsFrom_splitOn_append_feed (hline a q ha hq),
        rowsFrom_splitOn_append_feed (hline b q hb hq), (h p q).row?_read_eq, (h p q).next_read_eq]
  | cons p s hp ih =>
    rw [List.append_assoc, List.cons_append, rowsFrom_splitOn_append_feed hp, ih, List.append_assoc,
      List.cons_append, rowsFrom_splitOn_append_feed hp]

/-- Blank characters before a bar, wherever in the text, make no difference. -/
theorem rowsFrom_splitOn_insert (hw : AllBlank w) (hfeed : '\n' ∉ w) (st : Stage) (s t : List Char) :
    rowsFrom st ((s ++ (w ++ '|' :: t)).splitOn '\n') = rowsFrom st ((s ++ '|' :: t).splitOn '\n') := by
  have hwb : '\n' ∉ w ++ ['|'] := by simp [hfeed]
  have hcontent : ∀ p q, SameContent (p ++ ((w ++ ['|']) ++ q)) (p ++ (['|'] ++ q)) := fun p q => by
    have h := (Retouch.align p q hw .nil).sameContent.symm
    simpa using h
  simpa using rowsFrom_splitOn_replace hwb (by decide) hcontent st s t

/-- Logs with lines of the same content have the same rows. So carriage returns before the line
feeds do not count, nor do changes to the layout of lines, nor blank characters after the log. -/
theorem parse_eq_of_sameContent :
    (∀ log log' : String, List.Forall₂ SameContent (lines log.toList) (lines log'.toList) →
        parse log = parse log') ∧
      (∀ log : String, parse (String.ofList (withReturns log.toList)) = parse log) ∧
      (∀ log log' : String, List.Forall₂ Relaid (log.toList.splitOn '\n')
        (log'.toList.splitOn '\n') → parse log = parse log') ∧
      ∀ log w : String, AllBlank w.toList → parse (log ++ w) = parse log := by
  refine ⟨fun log log' h => rowsFrom_congr h .seeking, fun log => ?_, fun log log' h => ?_,
    fun log w hw => ?_⟩
  · apply parse_eq_of_forall₂_splitOn
    rw [String.toList_ofList]
    exact forall₂_splitOn_withReturns log.toList
  · exact parse_eq_of_forall₂_splitOn (h.imp fun _ _ => Relaid.sameContent)
  · rw [parse_eq_rowsFrom_splitOn, String.toList_append, rowsFrom_splitOn_append_of_allBlank hw,
      ← parse_eq_rowsFrom_splitOn]

/-- A log laid out anew, with a tab, a carriage return and a no-break space at the ends of lines or
cells and with other bars; a bar put before a row; and a log with blank lines after its last row. -/
theorem parse_eq_of_sameContent_go :
    List.Forall₂ SameContent (lines "Runtime Min\n| go | 1 | 5 | 3 |\n".toList)
        (lines "\tRuntime Min \r\n  go|1 || 5|  3\u00a0|\n".toList) ∧
      parse "Runtime Min\n| go | 1 | 5 | 3 |\n" =
        parse "\tRuntime Min \r\n  go|1 || 5|  3\u00a0|\n" ∧
      List.Forall₂ Relaid ("Runtime Min\ngo | 1 | 5 | 3".toList.splitOn '\n')
        ("Runtime Min\n|go | 1 | 5 | 3".toList.splitOn '\n') ∧
      parse "Runtime Min\ngo | 1 | 5 | 3" = parse "Runtime Min\n|go | 1 | 5 | 3" ∧
      AllBlank " \n\u2003\n".toList ∧
      parse ("Runtime Min\ngo | 1 | 5 | 3" ++ " \n\u2003\n") = parse "Runtime Min\ngo | 1 | 5 | 3" := by
  obtain ⟨hlines, -, hretouch, hblank⟩ := parse_eq_of_sameContent
  have h₁ : List.Forall₂ SameContent (lines "Runtime Min\n| go | 1 | 5 | 3 |\n".toList)
      (lines "\tRuntime Min \r\n  go|1 || 5|  3\u00a0|\n".toList) := by decide
  have h₂ : List.Forall₂ Relaid ("Runtime Min\ngo | 1 | 5 | 3".toList.splitOn '\n')
      ("Runtime Min\n|go | 1 | 5 | 3".toList.splitOn '\n') :=
    .cons (.refl _) (.cons (.rel _ _ (.lead (by decide))) .nil)
  have h₃ : AllBlank " \n\u2003\n".toList := by decide
  exact ⟨h₁, hlines _ _ h₁, h₂, hretouch _ _ h₂, h₃, hblank _ _ h₃⟩

end TimingTable
