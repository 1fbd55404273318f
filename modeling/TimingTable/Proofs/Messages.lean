import Mathlib.Data.List.Find
import TimingTable.Verbosity
import TimingTable.Proofs.Text.LineStarts
import TimingTable.Proofs.Text.LowerCase
import TimingTable.Proofs.Text.Trim

/-!
# Messages on the error stream

A text asks for a level by its word, alone or for the part of the program whose name all messages
begin with (`AsksFor`). Level words are letters only, so such a text is read as it is
(`read?_of_asksFor`): there is no complaint about it, and exactly the messages of the level and graver
ones are shown (`shows_read_iff`).

An entry starts with a bracket and its further lines are indented, whatever its text is
(`Message.lineStarts_entry`). Leaving out what a terminal takes as a command does not join the lines
to anything else, for after a line feed that stays the characters are printed again.
-/

namespace TimingTable
open Text

theorem isBlank_of_isAlpha {c : Char} (h : c.isAlpha = true) : isBlank c = false := by
  rw [isAlpha_iff] at h
  simp [isBlank]
  omega

theorem trimmed_of_forall_not_isBlank {s : List Char} (h : ∀ c ∈ s, isBlank c = false) : Trimmed s :=
  ⟨fun c hc => h c (List.mem_of_head? hc), fun c hc => h c (List.mem_of_getLast? hc)⟩

/-- The parts of the program that messages come from. -/
def Message.sources : List String :=
  ["benchtable::bench_log::parser", "benchtable::bench_log::report", "benchtable::report_cli"]

theorem Message.source_mem_sources (m : Message) : m.source ∈ Message.sources := by
  cases m <;> simp [source, sources]

namespace Verbosity
variable {level : Nat} {word text : String}

/-- A text that asks for a level, of the whole program. -/
def AsksFor (level : Nat) (text : String) : Prop :=
  ∃ word, level? word = some level ∧ (text = word ∨ text = "benchtable=" ++ word)

theorem ne_empty_of_level? (h : level? word = some level) : word ≠ "" := by
  rintro rfl
  have hnone : level? "" = none := by decide +kernel
  rw [hnone] at h
  cases h

/-- No two severities have the same word, and none has the word for showing nothing. -/
theorem toLower_word_inj : ∀ s ∈ Severity.all, s.word.toLower ≠ "off" ∧
    ∀ t ∈ Severity.all, s.word.toLower = t.word.toLower → s = t := by
  decide +kernel

theorem find?_word (s : Severity) :
    (Severity.all.find? fun t => t.word.toLower = s.word.toLower) = some s := by
  have hall : s ∈ Severity.all := by cases s <;> decide
  have hsame : ∀ t ∈ Severity.all,
      decide (t.word.toLower = s.word.toLower) = decide (t = s) := fun t ht => by
    rw [decide_eq_decide]
    exact ⟨fun heq => ((toLower_word_inj s hall).2 t ht heq.symm).symm, fun heq => heq ▸ rfl⟩
  rw [List.find?_congr hsame]
  cases s <;> rfl

/-- The word of a severity names its level, in any case. -/
theorem level?_eq_some_rank {s : Severity} {lower : String} (hword : word.toLower = lower)
    (hs : s.word.toLower = lower) : level? word = some s.rank := by
  have hall : s ∈ Severity.all := by cases s <;> decide
  have hoff : lower ≠ "off" := hs ▸ (toLower_word_inj s hall).1
  have hfind := find?_word s
  rw [hs] at hfind
  simp only [level?, hword, if_neg hoff, hfind, Option.map_some]

theorem level?_warn : level? "warn" = some Severity.warn.rank := by
  have hword : "warn".toLower = "warn" := by decide +kernel
  exact level?_eq_some_rank hword (by decide +kernel)

theorem isAlpha_of_level? (h : level? word = some level) : ∀ c ∈ word.toList, c.isAlpha = true := by
  -- in lower case it is `off` or the word of a severity
  have hlower : word.toLower.toList.all Char.isAlpha = true := by
    rw [level?] at h
    split_ifs at h with hoff
    · rw [hoff]
      decide
    · obtain ⟨s, hs, -⟩ := Option.map_eq_some_iff.1 h
      have hword : s.word.toLower = word.toLower := by simpa using List.find?_some hs
      rw [← hword]
      cases s <;> decide +kernel
  intro c hc
  apply isAlpha_of_toLower
  apply List.all_eq_true.1 hlower
  rw [toList_toLower]
  exact List.mem_map_of_mem hc

theorem trim_word (h : level? word = some level) : trim word.toList = word.toList :=
  (trimmed_of_forall_not_isBlank fun c hc => isBlank_of_isAlpha (isAlpha_of_level? h c hc)).trim_eq

theorem splitOn_word (h : level? word = some level) : word.toList.splitOn '=' = [word.toList] := by
  apply List.splitOn_eq_singleton
  intro hmem
  exact absurd (isAlpha_of_level? h '=' hmem) (by decide)

theorem read?_of_asksFor (h : AsksFor level text) :
    read? text = .ok ⟨level, ""⟩ ∨ read? text = .ok ⟨level, "benchtable"⟩ := by
  obtain ⟨word, hword, rfl | rfl⟩ := h
  · left
    simp [read?, trim_word hword, splitOn_word hword, ne_empty_of_level? hword, hword]
  · right
    have hlist : ("benchtable=" ++ word).toList = "benchtable".toList ++ '=' :: word.toList := by
      simp
    have htrim : trim ("benchtable=" ++ word).toList = ("benchtable=" ++ word).toList := by
      refine (trimmed_of_forall_not_isBlank fun c hc => ?_).trim_eq
      rw [String.toList_append, List.mem_append] at hc
      rcases hc with hc | hc
      · have hall : "benchtable=".toList.all (isBlank · = false) = true := by decide
        simpa using List.all_eq_true.1 hall c hc
      · exact isBlank_of_isAlpha (isAlpha_of_level? hword c hc)
    have hsplit : ("benchtable=" ++ word).toList.splitOn '=' = ["benchtable".toList, word.toList] := by
      rw [hlist, List.splitOn_append_cons_self_of_not_mem (by decide), splitOn_word hword]
    simp only [read?, htrim, hsplit, List.map_cons, List.map_nil, String.ofList_toList,
      trim_word hword, if_neg (ne_empty_of_level? hword), hword]

theorem complaint_eq_empty (h : AsksFor level text) : complaint text = "" := by
  rw [complaint]
  rcases read?_of_asksFor h with h | h <;> rw [h]

theorem level_read (h : AsksFor level text) : (read text).level = level := by
  rw [read]
  rcases read?_of_asksFor h with h | h <;> rw [h]

/-- The messages of the level and the graver ones are shown, whatever part they come from. -/
theorem shows_read_iff (h : AsksFor level text) (m : Message) :
    (read text).shows m = true ↔ m.severity.rank ≤ level := by
  have hparts : ∀ source ∈ Message.sources, "benchtable".toList.isPrefixOf source.toList = true := by
    decide
  rw [read]
  rcases read?_of_asksFor h with h | h
  · simp [h, shows]
  · simp only [h, shows, hparts _ m.source_mem_sources, Bool.and_true, decide_eq_true_eq]

end Verbosity

/-- What an entry may have at the start of a line: a bracket, or a space where it goes on. -/
def IsEntryStart (c : Char) : Prop := c = '[' ∨ c = ' '

theorem prints_of_isEntryStart {c : Char} (h : IsEntryStart c) : TerminalMode.plain.prints c = true := by
  rcases h with rfl | rfl <;> decide

section Printed
variable {P : Char → Prop} {s : List Char}

theorem head?_printedFrom_plain (hP : ∀ c, P c → TerminalMode.plain.prints c = true)
    (h : ∀ c ∈ s.head?, P c) : (printedFrom .plain s).head? = s.head? := by
  cases s with
  | nil => rfl
  | cons c s => rw [printedFrom, if_pos (hP c (h c rfl)), List.head?_cons, List.head?_cons]

theorem isChain_printedFrom (hP : ∀ c, P c → TerminalMode.plain.prints c = true)
    (h : s.IsChain fun a b => a = '\n' → P b) (mode : TerminalMode) :
    (printedFrom mode s).IsChain fun a b => a = '\n' → P b := by
  induction s generalizing mode with
  | nil => exact .nil
  | cons c s ih =>
    obtain ⟨hnext, hs⟩ := List.isChain_cons.1 h
    rw [printedFrom]
    split
    · refine List.isChain_cons.2 ⟨fun b hb hfeed => ?_, ih hs .plain⟩
      have hhead := head?_printedFrom_plain hP fun b hb => hnext b hb hfeed
      exact hnext b (hhead ▸ hb) hfeed
    · exact ih hs _

theorem Text.LineStarts.printedFrom (hP : ∀ c, P c → TerminalMode.plain.prints c = true)
    (h : LineStarts P s) : LineStarts P (printedFrom .plain s) where
  head := (head?_printedFrom_plain hP h.head).symm ▸ h.head
  next := isChain_printedFrom hP h.next .plain

end Printed

namespace Message

/-- What stands before the text of an entry. -/
def label (m : Message) : String := "[" ++ padRight 5 m.severity.word ++ " " ++ m.source ++ "] "

theorem feed_not_mem_label (m : Message) : '\n' ∉ m.label.toList ∧ m.label.toList.head? = some '[' := by
  have hword : '\n' ∉ m.severity.word.toList := by cases m.severity <;> decide
  have hsource : ∀ source ∈ sources, '\n' ∉ source.toList := by decide
  exact ⟨by simp [label, toList_padRight, hword, hsource _ m.source_mem_sources], by simp [label]⟩

/-- Lines with an indented line feed between them, and a line feed after the last one. -/
theorem intercalate_append_feed (p : List Char) (ps : List (List Char)) :
    "\n    ".toList.intercalate (p :: ps) ++ ['\n'] =
      p ++ '\n' :: ps.flatMap fun q => "    ".toList ++ q ++ ['\n'] := by
  induction ps generalizing p with
  | nil => simp
  | cons q ps ih =>
    rw [List.intercalate_cons_cons, List.append_assoc, ih q]
    simp

theorem toList_entry (m : Message) : m.entry.toList = printedFrom .plain
    (m.label.toList ++ ("\n    ".toList.intercalate (m.text.toList.splitOn '\n') ++ ['\n'])) := by
  have hmap : ((m.text.toList.splitOn '\n').map String.ofList).map String.toList =
      m.text.toList.splitOn '\n' := by
    simp [Function.comp_def]
  have hentry : m.entry = withoutControls
      (m.label ++ "\n    ".intercalate ((m.text.toList.splitOn '\n').map String.ofList) ++ "\n") := rfl
  rw [hentry, withoutControls, String.toList_ofList, String.toList_append, String.toList_append,
    String.toList_intercalate, hmap, List.append_assoc]
  rfl

/-- An entry is a line with its label and further lines that are indented. -/
theorem lineStarts_entry (m : Message) :
    LineStarts IsEntryStart m.entry.toList ∧ m.entry.toList.head? = some '[' := by
  obtain ⟨hlabel, hhead⟩ := m.feed_not_mem_label
  obtain ⟨p, ps, hsplit⟩ := List.exists_cons_of_ne_nil (List.splitOn_ne_nil '\n' m.text.toList)
  have hline : ∀ q ∈ m.text.toList.splitOn '\n', '\n' ∉ q := fun q hq => not_mem_of_mem_splitOn hq
  rw [hsplit, List.forall_mem_cons] at hline
  have hfirst : LineStarts IsEntryStart (m.label.toList ++ p ++ ['\n']) := by
    refine .concat_feed (by simp [hlabel, hline.1]) fun c hc => ?_
    rw [List.append_assoc, List.head?_append, hhead] at hc
    cases hc
    exact .inl rfl
  have hrest : LineStarts IsEntryStart (ps.flatMap fun q => "    ".toList ++ q ++ ['\n']) := by
    refine .flatMap fun q hq => .concat_feed (by simp [hline.2 q hq]) fun c hc => ?_
    cases hc
    exact .inr rfl
  have hentry : m.entry.toList = printedFrom .plain (m.label.toList ++ p ++ ['\n'] ++
      ps.flatMap fun q => "    ".toList ++ q ++ ['\n']) := by
    rw [toList_entry, hsplit, intercalate_append_feed]
    simp
  have hraw := hfirst.append hrest
  rw [hentry]
  refine ⟨hraw.printedFrom fun _ => prints_of_isEntryStart, ?_⟩
  rw [head?_printedFrom_plain (fun _ => prints_of_isEntryStart) hraw.head]
  simp [hhead]

end Message

end TimingTable
