import TimingTable.Text.Lines

/-!
# Lines of written texts

A line feed divides a text: the lines before it and the lines after it are read apart
(`lines_append_feed`). So a list of lines is read back from the text that `unlines` writes, whatever
text follows it (`lines_unlines_append`), provided that each of them is a text which reading leaves
as it is (`IsLine`).
-/

namespace TimingTable.Text

/-- A text without a line feed that does not end in a carriage return: written with a line feed
after it, it is read back as it is. -/
structure IsLine (l : List Char) : Prop where
  no_feed : '\n' ∉ l
  no_return : l.getLast? ≠ some '\r'

variable {l s t : List Char} {ls : List String}

theorem IsLine.dropReturn_eq (h : IsLine l) : dropReturn l = l := by
  rw [dropReturn, if_neg h.no_return]

theorem linesOfPieces_append (ps : List (List Char)) {qs : List (List Char)} (hqs : qs ≠ []) :
    linesOfPieces (ps ++ qs) = ps.map dropReturn ++ linesOfPieces qs := by
  induction ps with
  | nil => rfl
  | cons p ps ih =>
    have hne : ps ++ qs ≠ [] := by simp [hqs]
    obtain ⟨q, rest, hq⟩ := List.exists_cons_of_ne_nil hne
    rw [List.cons_append, hq, linesOfPieces, ← hq, ih, List.map_cons, List.cons_append]

theorem lines_append_feed (s t : List Char) :
    lines (s ++ '\n' :: t) = (s.splitOn '\n').map dropReturn ++ lines t := by
  rw [lines, List.splitOn_append_cons_self, linesOfPieces_append _ (List.splitOn_ne_nil _ _), lines]

theorem lines_feed_cons (s : List Char) : lines ('\n' :: s) = [] :: lines s := by
  have h := lines_append_feed [] s
  rwa [List.nil_append, List.splitOn_nil] at h

/-- A text that ends with a line feed has only lines that are complete. -/
theorem lines_append (h : s = [] ∨ s.getLast? = some '\n') (t : List Char) :
    lines (s ++ t) = lines s ++ lines t := by
  rcases h with rfl | h
  · rfl
  · obtain ⟨p, rfl⟩ := List.getLast?_eq_some_iff.1 h
    rw [List.append_assoc, List.singleton_append, lines_append_feed, lines_append_feed, lines_nil,
      List.append_nil]

theorem lines_append_feed_of_isLine (h : IsLine l) (s : List Char) :
    lines (l ++ '\n' :: s) = l :: lines s := by
  rw [lines_append_feed, List.splitOn_eq_singleton h.no_feed, List.map_singleton, h.dropReturn_eq]
  rfl

theorem toList_unlines_cons (l : String) (ls : List String) :
    (unlines (l :: ls)).toList = l.toList ++ '\n' :: (unlines ls).toList := by
  simp [unlines]

theorem toList_unlines_append (ls ms : List String) :
    (unlines (ls ++ ms)).toList = (unlines ls).toList ++ (unlines ms).toList := by
  simp [unlines]

theorem unlines_eq_nil_or_getLast? (ls : List String) :
    (unlines ls).toList = [] ∨ (unlines ls).toList.getLast? = some '\n' := by
  rcases List.eq_nil_or_concat ls with rfl | ⟨ls, l, rfl⟩
  · exact .inl rfl
  · right
    rw [List.concat_eq_append, toList_unlines_append, toList_unlines_cons, List.getLast?_append,
      List.getLast?_append]
    rfl

theorem lines_unlines_nil_cons (ls : List String) :
    lines (unlines ("" :: ls)).toList = [] :: lines (unlines ls).toList := by
  rw [toList_unlines_cons]
  exact lines_feed_cons _

/-- Lines that are written are read back, and the text after them is read on its own. -/
theorem lines_unlines_append (h : ∀ l ∈ ls, IsLine l.toList) (s : List Char) :
    lines ((unlines ls).toList ++ s) = ls.map String.toList ++ lines s := by
  induction ls with
  | nil => rfl
  | cons l ls ih =>
    have hl : IsLine l.toList := h l (by simp)
    have ih := ih fun m hm => h m (by simp [hm])
    rw [toList_unlines_cons, List.append_assoc, List.cons_append, lines_append_feed_of_isLine hl,
      ih, List.map_cons, List.cons_append]

end TimingTable.Text
