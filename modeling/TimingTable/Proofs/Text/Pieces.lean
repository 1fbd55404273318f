import Mathlib.Data.List.Infix

/-!
# Words in texts with separators

A word that does not hold the separator stands in a text exactly where it stands in one of the
pieces around a separator (`infix_append_cons_iff`): it cannot reach across. `pieceInduction` is
the induction that goes with it, from a text without the separator past one separator at a time.
-/

namespace TimingTable.Text

variable {α : Type} {sep : α} {w a b : List α}

theorem prefix_of_prefix_append_cons (hw : sep ∉ w) (h : w <+: a ++ sep :: b) : w <+: a := by
  rcases List.prefix_or_prefix_of_prefix h (List.prefix_append a (sep :: b)) with h' | ⟨t, rfl⟩
  · exact h'
  · -- `w` reaches past `a`, so it either ends there or holds the separator
    rw [List.prefix_append_right_inj] at h
    cases t with
    | nil => simp
    | cons c t =>
      obtain ⟨rfl, -⟩ := List.cons_prefix_cons.1 h
      simp at hw

theorem infix_append_cons_iff (hw : sep ∉ w) : w <:+: a ++ sep :: b ↔ w <:+: a ∨ w <:+: b := by
  constructor
  · intro h
    induction a with
    | nil =>
      rw [List.nil_append, List.infix_cons_iff] at h
      rcases h with h | h
      · exact .inl (prefix_of_prefix_append_cons (a := []) hw h).isInfix
      · exact .inr h
    | cons c a ih =>
      rw [List.cons_append, List.infix_cons_iff] at h
      rcases h with h | h
      · exact .inl (prefix_of_prefix_append_cons (a := c :: a) hw h).isInfix
      · exact (ih h).imp_left fun h => h.trans (List.suffix_cons c a).isInfix
  · rintro (h | h)
    · exact h.trans (List.prefix_append a _).isInfix
    · exact h.trans ((List.suffix_cons sep b).trans (List.suffix_append a _)).isInfix

/-- Every text either has no separator, or is a piece without one, a separator, and a text. -/
@[elab_as_elim]
theorem pieceInduction [DecidableEq α] (sep : α) {P : List α → Prop} (last : ∀ p, sep ∉ p → P p)
    (cons : ∀ p s, sep ∉ p → P s → P (p ++ sep :: s)) (s : List α) : P s := by
  by_cases h : sep ∈ s
  · obtain ⟨p, t, rfl, hp⟩ := List.eq_append_cons_of_mem h
    exact cons p t hp (pieceInduction sep last cons t)
  · exact last s h
termination_by s.length
decreasing_by grind

theorem subset_of_mem_splitOn [DecidableEq α] {p s : List α} (h : p ∈ s.splitOn sep) : p ⊆ s := by
  induction s using pieceInduction sep with
  | last q hq =>
    rw [List.splitOn_eq_singleton hq, List.mem_singleton] at h
    exact h ▸ List.Subset.refl p
  | cons q s hq ih =>
    rw [List.splitOn_append_cons_self_of_not_mem hq, List.mem_cons] at h
    rcases h with rfl | h
    · exact List.subset_append_left p _
    · exact fun c hc => List.mem_append_right q (List.mem_cons_of_mem sep (ih h hc))

end TimingTable.Text
