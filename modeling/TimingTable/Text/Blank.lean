/-!
# Blank characters

`isBlank` holds of the characters that have the Unicode property `White_Space`, and `trim` takes
them off both ends of a text. Every character that core calls whitespace is blank
(`isBlank_of_isWhitespace`), so the table only adds to core's ASCII class. A trimmed text does not
end in a blank character (`not_isBlank_of_getLast?_trim`).
-/

namespace TimingTable.Text

/-- The characters with the Unicode property `White_Space`. -/
def isBlank (c : Char) : Bool :=
  (0x09 ≤ c.toNat && c.toNat ≤ 0x0D) || c.toNat == 0x20 || c.toNat == 0x85 || c.toNat == 0xA0 ||
  c.toNat == 0x1680 || (0x2000 ≤ c.toNat && c.toNat ≤ 0x200A) || c.toNat == 0x2028 ||
  c.toNat == 0x2029 || c.toNat == 0x202F || c.toNat == 0x205F || c.toNat == 0x3000

theorem isBlank_of_isWhitespace {c : Char} (h : c.isWhitespace = true) : isBlank c = true := by
  simp only [Char.isWhitespace, Bool.or_eq_true, decide_eq_true_eq] at h
  rcases h with ((h | h) | h) | h <;> subst h <;> decide

/-- A text without the blank characters at its start. -/
def trimLeft (s : List Char) : List Char := s.dropWhile isBlank

/-- A text without the blank characters at its end. -/
def trimRight (s : List Char) : List Char := (trimLeft s.reverse).reverse

/-- A text without the blank characters at its two ends. -/
def trim (s : List Char) : List Char := trimRight (trimLeft s)

@[simp] theorem trimLeft_nil : trimLeft [] = [] := rfl

@[simp] theorem trim_nil : trim [] = [] := rfl

theorem trimLeft_cons_of_isBlank {c : Char} (s : List Char) (h : isBlank c = true) :
    trimLeft (c :: s) = trimLeft s := by
  simp [trimLeft, h]

theorem trimLeft_cons_of_not_isBlank {c : Char} (s : List Char) (h : isBlank c = false) :
    trimLeft (c :: s) = c :: s := by
  simp [trimLeft, h]

theorem not_isBlank_of_head?_trimLeft {s : List Char} {c : Char}
    (h : (trimLeft s).head? = some c) : isBlank c = false := by
  induction s with
  | nil => simp at h
  | cons d s ih =>
    cases hd : isBlank d with
    | true => exact ih (by rwa [trimLeft_cons_of_isBlank s hd] at h)
    | false =>
      rw [trimLeft_cons_of_not_isBlank s hd] at h
      cases h
      exact hd

theorem not_isBlank_of_getLast?_trim {s : List Char} {c : Char}
    (h : (trim s).getLast? = some c) : isBlank c = false := by
  rw [trim, trimRight, List.getLast?_reverse] at h
  exact not_isBlank_of_head?_trimLeft h

end TimingTable.Text
