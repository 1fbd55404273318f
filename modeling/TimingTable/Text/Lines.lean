/-!
# Lines

`lines` reads a text as lines: they end at a line feed, and one carriage return right before that
line feed goes with it. `unlines` writes each line with a line feed after it. A text cut at its
line feeds has one piece more than it has lines that end (`linesOfPieces`), so the last piece is a
line only where it is not empty, and no line holds a line feed (`not_mem_of_mem_lines`).
-/

namespace TimingTable.Text

/-- A line without the carriage return that ends it, if one does. -/
def dropReturn (line : List Char) : List Char :=
  if line.getLast? = some '\r' then line.dropLast else line

/-- The lines of a text already cut at its line feeds: the last piece has no line feed after it,
so it keeps its carriage return, and where it is empty it is no line. -/
def linesOfPieces : List (List Char) → List (List Char)
  | [] => []
  | [p] => if p = [] then [] else [p]
  | p :: q :: ps => dropReturn p :: linesOfPieces (q :: ps)

/-- The lines of a text. -/
def lines (s : List Char) : List (List Char) := linesOfPieces (s.splitOn '\n')

/-- The text of some lines, each with a line feed after it. -/
def unlines (ls : List String) : String := String.join (ls.map (· ++ "\n"))

@[simp] theorem lines_nil : lines [] = [] := rfl

@[simp] theorem unlines_nil : unlines [] = "" := rfl

theorem mem_of_mem_dropReturn {line : List Char} {c : Char} (h : c ∈ dropReturn line) :
    c ∈ line := by
  unfold dropReturn at h
  split at h
  · exact List.dropLast_subset line h
  · exact h

theorem exists_mem_of_mem_linesOfPieces {ps : List (List Char)} {line : List Char}
    (h : line ∈ linesOfPieces ps) : ∃ p ∈ ps, ∀ c ∈ line, c ∈ p := by
  induction ps using linesOfPieces.induct with
  | case1 => simp [linesOfPieces] at h
  | case2 => simp [linesOfPieces] at h
  | case3 p hp =>
    rw [linesOfPieces, if_neg hp, List.mem_singleton] at h
    exact ⟨p, by simp, fun c hc => h ▸ hc⟩
  | case4 p q ps ih =>
    rw [linesOfPieces, List.mem_cons] at h
    rcases h with rfl | h
    · exact ⟨p, by simp, fun _ hc => mem_of_mem_dropReturn hc⟩
    · obtain ⟨r, hr, hsub⟩ := ih h
      exact ⟨r, List.mem_cons_of_mem p hr, hsub⟩

theorem not_mem_of_mem_splitOn {sep : Char} {s p : List Char} (h : p ∈ s.splitOn sep) :
    sep ∉ p := by
  induction s generalizing p with
  | nil => simp_all
  | cons c s ih =>
    rw [List.splitOn_cons_eq_if_modifyHead] at h
    split at h
    · rcases List.mem_cons.1 h with rfl | h
      · simp
      · exact ih h
    · next hc =>
      cases hs : s.splitOn sep with
      | nil => simp [hs] at h
      | cons q qs =>
        rw [hs, List.modifyHead_cons, List.mem_cons] at h
        rcases h with rfl | h
        · have hq : sep ∉ q := ih (by simp [hs])
          simpa [hq] using fun h => hc (by simp [h])
        · exact ih (by simp [hs, h])

theorem not_mem_of_mem_lines {s line : List Char} (h : line ∈ lines s) : '\n' ∉ line := by
  obtain ⟨p, hp, hsub⟩ := exists_mem_of_mem_linesOfPieces h
  exact fun hn => not_mem_of_mem_splitOn hp (hsub _ hn)

end TimingTable.Text
