import Mathlib.Data.List.TakeWhile
import TimingTable.Text.Blank
import TimingTable.Proofs.Text.Pieces

/-!
# Trimmed texts

`trim` takes off blank characters and nothing else (`exists_eq_append_trim`), and how many of them
stand around a text makes no difference to it (`trim_append_of_allBlank`,
`trim_append_of_allBlank_left`). A text is left as it is when neither of its ends is blank
(`Trimmed.trim_eq`), and that is how every trimmed text is (`trimmed_trim`). A word without blank
characters stands in a text exactly where it stands in the trimmed text (`infix_trim_iff`).
-/

namespace TimingTable.Text

/-- Every character of the text is blank; the empty text is such a text. -/
def AllBlank (s : List Char) : Prop := ∀ c ∈ s, isBlank c = true

instance : DecidablePred AllBlank := fun s => decidable_of_iff (s.all isBlank) List.all_eq_true

/-- Neither the first nor the last character is blank. -/
structure Trimmed (s : List Char) : Prop where
  head : ∀ c ∈ s.head?, isBlank c = false
  last : ∀ c ∈ s.getLast?, isBlank c = false

theorem trimmed_iff_all {s : List Char} :
    Trimmed s ↔ s.head?.all (!isBlank ·) ∧ s.getLast?.all (!isBlank ·) := by
  simp only [Option.all_eq_true, Bool.not_eq_true']
  exact ⟨fun h => ⟨h.head, h.last⟩, fun h => ⟨h.1, h.2⟩⟩

instance : DecidablePred Trimmed := fun _ => decidable_of_iff _ trimmed_iff_all.symm

variable {a b s w : List Char}

namespace AllBlank

theorem nil : AllBlank [] := fun _ h => absurd h List.not_mem_nil

theorem reverse (h : AllBlank s) : AllBlank s.reverse := fun c hc => h c (List.mem_reverse.1 hc)

theorem append (ha : AllBlank a) (hb : AllBlank b) : AllBlank (a ++ b) := by
  intro c hc
  rcases List.mem_append.1 hc with hc | hc
  · exact ha c hc
  · exact hb c hc

theorem not_mem {c : Char} (h : AllBlank s) (hc : isBlank c = false) : c ∉ s := by
  intro hmem
  rw [h c hmem] at hc
  cases hc

/-- A word without blank characters that stands in blank text is empty. -/
theorem eq_nil_of_infix (hs : AllBlank s) (hw : ∀ c ∈ w, isBlank c = false) (h : w <:+: s) :
    w = [] := by
  cases w with
  | nil => rfl
  | cons c w => exact absurd (h.subset (by simp)) (hs.not_mem (hw c (by simp)))

end AllBlank

theorem trimLeft_eq_nil_iff : trimLeft s = [] ↔ AllBlank s := List.dropWhile_eq_nil_iff

theorem trimLeft_append_of_allBlank (ha : AllBlank a) : trimLeft (a ++ s) = trimLeft s :=
  List.dropWhile_append_of_pos ha

theorem trimRight_append_of_allBlank (hb : AllBlank b) : trimRight (s ++ b) = trimRight s := by
  rw [trimRight, List.reverse_append, trimLeft_append_of_allBlank hb.reverse, trimRight]

theorem trim_append_of_allBlank_left (ha : AllBlank a) : trim (a ++ s) = trim s := by
  rw [trim, trimLeft_append_of_allBlank ha, trim]

theorem trim_append_of_allBlank (hb : AllBlank b) : trim (s ++ b) = trim s := by
  by_cases hs : AllBlank s
  · have hsb : trimLeft (s ++ b) = [] := trimLeft_eq_nil_iff.2 (hs.append hb)
    rw [trim, trim, hsb, trimLeft_eq_nil_iff.2 hs]
  · have hne : trimLeft s ≠ [] := fun h => hs (trimLeft_eq_nil_iff.1 h)
    have hsb : trimLeft (s ++ b) = trimLeft s ++ b := by
      rw [trimLeft, List.dropWhile_append, if_neg (by rwa [List.isEmpty_iff]), trimLeft]
    rw [trim, hsb, trimRight_append_of_allBlank hb, trim]

theorem exists_eq_append_trimLeft (s : List Char) : ∃ a, AllBlank a ∧ s = a ++ trimLeft s :=
  ⟨s.takeWhile isBlank, fun _ hc => List.mem_takeWhile_imp hc,
    List.takeWhile_append_dropWhile.symm⟩

theorem exists_eq_append_trimRight (s : List Char) : ∃ b, AllBlank b ∧ s = trimRight s ++ b := by
  obtain ⟨b, hb, hs⟩ := exists_eq_append_trimLeft s.reverse
  exact ⟨b.reverse, hb.reverse, by rw [trimRight, ← List.reverse_append, ← hs, List.reverse_reverse]⟩

/-- What trimming takes off is blank. -/
theorem exists_eq_append_trim (s : List Char) :
    ∃ a b, AllBlank a ∧ AllBlank b ∧ s = a ++ (trim s ++ b) := by
  obtain ⟨a, ha, hs⟩ := exists_eq_append_trimLeft s
  obtain ⟨b, hb, ht⟩ := exists_eq_append_trimRight (trimLeft s)
  exact ⟨a, b, ha, hb, by rw [trim, ← ht]; exact hs⟩

theorem trim_eq_nil_iff : trim s = [] ↔ AllBlank s := by
  constructor
  · intro h
    obtain ⟨a, b, ha, hb, hs⟩ := exists_eq_append_trim s
    rw [h, List.nil_append] at hs
    exact hs ▸ ha.append hb
  · intro h
    rw [trim, trimLeft_eq_nil_iff.2 h]
    rfl

theorem trimLeft_eq_self (h : ∀ c ∈ s.head?, isBlank c = false) : trimLeft s = s := by
  cases s with
  | nil => rfl
  | cons c s => exact trimLeft_cons_of_not_isBlank s (h c rfl)

theorem Trimmed.trim_eq (h : Trimmed s) : trim s = s := by
  have hr : trimLeft s.reverse = s.reverse :=
    trimLeft_eq_self (by rw [List.head?_reverse]; exact h.last)
  rw [trim, trimLeft_eq_self h.head, trimRight, hr, List.reverse_reverse]

theorem trimmed_trim (s : List Char) : Trimmed (trim s) := by
  refine ⟨fun c hc => ?_, fun c hc => not_isBlank_of_getLast?_trim hc⟩
  -- the first character of `trim s` is the first one of `trimLeft s`
  obtain ⟨b, -, hs⟩ := exists_eq_append_trimRight (trimLeft s)
  apply not_isBlank_of_head?_trimLeft (s := s)
  rw [hs, List.head?_append]
  exact Option.or_eq_some_iff.2 (.inl hc)

theorem mem_of_mem_trim {c : Char} (h : c ∈ trim s) : c ∈ s := by
  obtain ⟨a, b, -, -, hs⟩ := exists_eq_append_trim s
  rw [hs]
  simp [h]

/-- Trimming takes off no character that is not blank. -/
theorem mem_trim_iff {c : Char} (hc : isBlank c = false) : c ∈ trim s ↔ c ∈ s := by
  constructor
  · exact mem_of_mem_trim
  · intro h
    obtain ⟨a, b, ha, hb, hs⟩ := exists_eq_append_trim s
    rw [hs, List.mem_append, List.mem_append] at h
    rcases h with h | h | h
    · exact absurd h (ha.not_mem hc)
    · exact h
    · exact absurd h (hb.not_mem hc)

/-- A word without blank characters does not reach into blank text. -/
theorem infix_append_iff_of_allBlank (hne : w ≠ []) (hw : ∀ c ∈ w, isBlank c = false)
    (hb : AllBlank b) : w <:+: s ++ b ↔ w <:+: s := by
  cases b with
  | nil => rw [List.append_nil]
  | cons c b =>
    have hc : c ∉ w := fun h => hb.not_mem (hw c h) (by simp)
    have hwb : ¬ w <:+: b := fun h =>
      hne (AllBlank.eq_nil_of_infix (fun d hd => hb d (by simp [hd])) hw h)
    rw [infix_append_cons_iff hc, or_iff_left hwb]

theorem infix_append_iff_of_allBlank_left (hne : w ≠ []) (hw : ∀ c ∈ w, isBlank c = false)
    (ha : AllBlank a) : w <:+: a ++ s ↔ w <:+: s := by
  have hw' : ∀ c ∈ w.reverse, isBlank c = false := fun c hc => hw c (List.mem_reverse.1 hc)
  rw [← List.reverse_infix, List.reverse_append,
    infix_append_iff_of_allBlank (by simpa using hne) hw' ha.reverse, List.reverse_infix]

theorem infix_trim_iff (hne : w ≠ []) (hw : ∀ c ∈ w, isBlank c = false) :
    w <:+: trim s ↔ w <:+: s := by
  obtain ⟨a, b, ha, hb, hs⟩ := exists_eq_append_trim s
  have h : w <:+: a ++ (trim s ++ b) ↔ w <:+: trim s := by
    rw [infix_append_iff_of_allBlank_left hne hw ha, infix_append_iff_of_allBlank hne hw hb]
  rw [← h, ← hs]

end TimingTable.Text
