/-!
# Lower case

Lower case moves the 26 capitals by 32 places and leaves every other character as it is
(`toNat_toLower`), so a character that is no small letter is in a text in lower case only if it is in
the text (`not_mem_toLower`).
-/

namespace TimingTable
variable {c d : Char} {text : String}

theorem isAlpha_iff :
    c.isAlpha = true ↔ 65 ≤ c.toNat ∧ c.toNat ≤ 90 ∨ 97 ≤ c.toNat ∧ c.toNat ≤ 122 := by
  have halpha : c.isAlpha = (decide ('A'.val ≤ c.val ∧ c.val ≤ 'Z'.val) ||
      (decide ('a'.val ≤ c.val) && decide (c.val ≤ 'z'.val))) := rfl
  rw [halpha, Bool.or_eq_true, Bool.and_eq_true]
  simp only [decide_eq_true_eq, UInt32.le_iff_toNat_le]
  rfl

theorem isLower_iff : c.isLower = true ↔ 97 ≤ c.toNat ∧ c.toNat ≤ 122 := by
  have hlower : c.isLower = (decide ('a'.val ≤ c.val) && decide (c.val ≤ 'z'.val)) := rfl
  rw [hlower, Bool.and_eq_true]
  simp only [decide_eq_true_eq, UInt32.le_iff_toNat_le]
  rfl

theorem toNat_toLower (c : Char) : c.toLower.toNat =
    if 65 ≤ c.toNat ∧ c.toNat ≤ 90 then c.toNat + 32 else c.toNat := by
  have hupper : 'A'.val ≤ c.val ∧ c.val ≤ 'Z'.val ↔ 65 ≤ c.toNat ∧ c.toNat ≤ 90 := by
    simp only [UInt32.le_iff_toNat_le]
    rfl
  by_cases h : 'A'.val ≤ c.val ∧ c.val ≤ 'Z'.val
  · have hval : c.toLower.val = c.val + 32 := congrArg Char.val (dif_pos h)
    have hnat : c.toLower.toNat = (c.val + 32).toNat := congrArg UInt32.toNat hval
    rw [hupper] at h
    rw [hnat, if_pos h, UInt32.toNat_add]
    change (c.toNat + 32) % 2 ^ 32 = c.toNat + 32
    omega
  · have hlower : c.toLower = c := dif_neg h
    rw [hlower, if_neg (mt hupper.2 h)]

theorem isAlpha_of_toLower (h : c.toLower.isAlpha = true) : c.isAlpha = true := by
  rw [isAlpha_iff, toNat_toLower] at h
  rw [isAlpha_iff]
  split at h <;> omega

/-- Only small letters come out in lower case where they were not before. -/
theorem eq_of_toLower_eq (hd : d.isLower = false) (h : c.toLower = d) : c = d := by
  rw [← Bool.not_eq_true, isLower_iff, ← h, toNat_toLower] at hd
  rw [← Char.toNat_inj, ← h, toNat_toLower]
  split at hd <;> rename_i hupper
  · omega
  · rw [if_neg hupper]

theorem toList_toLower (text : String) : text.toLower.toList = text.toList.map Char.toLower :=
  String.toList_map

theorem toLower_toLower (text : String) : text.toLower.toLower = text.toLower := by
  have hchar : ∀ c : Char, c.toLower.toLower = c.toLower := by
    intro c
    rw [← Char.toNat_inj, toNat_toLower c.toLower, toNat_toLower c]
    by_cases hupper : 65 ≤ c.toNat ∧ c.toNat ≤ 90
    · rw [if_pos hupper, if_neg (by omega)]
    · rw [if_neg hupper, if_neg hupper]
  apply String.toList_inj.1
  rw [toList_toLower, toList_toLower, List.map_map]
  exact List.map_congr_left fun c _ => hchar c

theorem not_mem_toLower (hc : c.isLower = false) (h : c ∉ text.toList) :
    c ∉ text.toLower.toList := by
  intro hmem
  rw [toList_toLower] at hmem
  obtain ⟨d, hd, hlower⟩ := List.mem_map.1 hmem
  exact h (eq_of_toLower_eq hc hlower ▸ hd)

end TimingTable
