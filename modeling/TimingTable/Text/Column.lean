/-!
# Columns

`padRight w s` is `s` followed by the spaces that a column of `w` characters still has room for.
A text as wide as the column or wider is left as it is (`padRight_of_le`), so nothing is cut.
-/

namespace TimingTable.Text

/-- A text filled with spaces on its right up to the width of a column. -/
def padRight (width : Nat) (s : String) : String :=
  s ++ String.ofList (List.replicate (width - s.length) ' ')

theorem padRight_of_le {width : Nat} {s : String} (h : width ≤ s.length) :
    padRight width s = s := by
  simp [padRight, Nat.sub_eq_zero_of_le h]

theorem toList_padRight (width : Nat) (s : String) :
    (padRight width s).toList = s.toList ++ List.replicate (width - s.length) ' ' := by
  simp [padRight]

end TimingTable.Text
