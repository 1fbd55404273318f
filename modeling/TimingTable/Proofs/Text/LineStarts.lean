import Mathlib.Data.List.Chain
import TimingTable.Text.Lines
import TimingTable.Proofs.Text.Lines
import TimingTable.Proofs.Text.Pieces

/-!
# How lines start

`LineStarts P s` says that at the start of `s`, and after each line feed in it, there is a character
with `P` or nothing more. So every line of the text that is not empty starts with such a character
(`LineStarts.of_mem_lines`). Texts of this kind can be put together (`LineStarts.append`), and lines
that are written make one (`lineStarts_unlines`).
-/

namespace TimingTable.Text

structure LineStarts (P : Char → Prop) (s : List Char) : Prop where
  head : ∀ c ∈ s.head?, P c
  next : s.IsChain fun a b => a = '\n' → P b

variable {P : Char → Prop} {s t p line : List Char}

namespace LineStarts

theorem nil : LineStarts P [] := ⟨by simp, .nil⟩

theorem append (hs : LineStarts P s) (ht : LineStarts P t) : LineStarts P (s ++ t) := by
  refine ⟨fun c hc => ?_, List.isChain_append.2 ⟨hs.next, ht.next, fun _ _ b hb _ => ht.head b hb⟩⟩
  rw [List.head?_append, Option.mem_def, Option.or_eq_some_iff] at hc
  rcases hc with hc | ⟨-, hc⟩
  · exact hs.head c hc
  · exact ht.head c hc

theorem flatMap {α : Type} {f : α → List Char} {xs : List α} (h : ∀ x ∈ xs, LineStarts P (f x)) :
    LineStarts P (xs.flatMap f) := by
  induction xs with
  | nil => exact nil
  | cons x xs ih =>
    obtain ⟨hx, hxs⟩ := List.forall_mem_cons.1 h
    rw [List.flatMap_cons]
    exact hx.append (ih hxs)

/-- A line with its line feed has only its first character to answer for. -/
theorem concat_feed (hs : '\n' ∉ s) (hhead : ∀ c ∈ (s ++ ['\n']).head?, P c) :
    LineStarts P (s ++ ['\n']) := by
  have hnext : s.IsChain fun a b => a = '\n' → P b :=
    List.Pairwise.isChain (List.pairwise_of_forall_mem_list fun a ha b _ hfeed =>
      absurd (hfeed ▸ ha) hs)
  refine ⟨hhead, List.isChain_append.2 ⟨hnext, .singleton _, fun a ha b _ hfeed => ?_⟩⟩
  exact absurd (hfeed ▸ List.mem_of_mem_getLast? ha) hs

theorem of_mem_splitOn (h : LineStarts P s) (hp : p ∈ s.splitOn '\n') : ∀ c ∈ p.head?, P c := by
  induction s using pieceInduction '\n' with
  | last q hq =>
    rw [List.splitOn_eq_singleton hq, List.mem_singleton] at hp
    exact hp ▸ h.head
  | cons q t hq ih =>
    rw [List.splitOn_append_cons_self_of_not_mem hq, List.mem_cons] at hp
    rcases hp with rfl | hp
    · intro c hc
      exact h.head c (by rw [List.head?_append, Option.mem_def.1 hc]; rfl)
    · obtain ⟨hhead, hnext⟩ := List.isChain_cons.1 (List.isChain_append.1 h.next).2.1
      exact ih ⟨fun c hc => hhead c hc rfl, hnext⟩ hp

end LineStarts

theorem lineStarts_unlines {ls : List String}
    (h : ∀ l ∈ ls, '\n' ∉ l.toList ∧ ∀ c ∈ (l.toList ++ ['\n']).head?, P c) :
    LineStarts P (unlines ls).toList := by
  induction ls with
  | nil => exact .nil
  | cons l ls ih =>
    obtain ⟨⟨hfeed, hhead⟩, hls⟩ := List.forall_mem_cons.1 h
    have hcons : (unlines (l :: ls)).toList = (l.toList ++ ['\n']) ++ (unlines ls).toList := by
      rw [toList_unlines_cons, List.append_assoc, List.singleton_append]
    rw [hcons]
    exact (LineStarts.concat_feed hfeed hhead).append (ih hls)

theorem dropReturn_prefix (line : List Char) : dropReturn line <+: line := by
  rw [dropReturn]
  split
  · exact List.dropLast_prefix line
  · exact List.prefix_rfl

theorem exists_prefix_of_mem_linesOfPieces {ps : List (List Char)} (h : line ∈ linesOfPieces ps) :
    ∃ p ∈ ps, line <+: p := by
  induction ps using linesOfPieces.induct with
  | case1 => simp [linesOfPieces] at h
  | case2 => simp [linesOfPieces] at h
  | case3 p hp =>
    rw [linesOfPieces, if_neg hp, List.mem_singleton] at h
    exact ⟨p, by simp, h ▸ List.prefix_rfl⟩
  | case4 p q ps ih =>
    rw [linesOfPieces, List.mem_cons] at h
    rcases h with rfl | h
    · exact ⟨p, by simp, dropReturn_prefix p⟩
    · obtain ⟨r, hr, hpre⟩ := ih h
      exact ⟨r, List.mem_cons_of_mem p hr, hpre⟩

theorem LineStarts.of_mem_lines (h : LineStarts P s) (hline : line ∈ lines s) :
    ∀ c ∈ line.head?, P c := by
  obtain ⟨p, hp, t, rfl⟩ := exists_prefix_of_mem_linesOfPieces hline
  intro c hc
  exact h.of_mem_splitOn hp c (by rw [List.head?_append, Option.mem_def.1 hc]; rfl)

end TimingTable.Text
