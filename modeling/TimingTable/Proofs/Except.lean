import Mathlib.Data.List.Forall2

/-!
# Computations that can fail

A computation with several steps succeeds where all of them do, and it fails as the first step that
fails (`except_bind_eq_ok`, `except_bind_eq_error`). Over a list that is the first element that fails
(`mapM_eq_error_iff`), and there is a first one wherever something does not hold of all elements
(`exists_first_of_not_forall`).
-/

namespace TimingTable
variable {ε α β : Type} {x : Except ε α} {f : α → Except ε β} {a : α} {b : β} {e : ε}
  {xs before after : List α} {ys : List β}

theorem except_bind_eq_ok : (x >>= f) = .ok b ↔ ∃ a, x = .ok a ∧ f a = .ok b := by
  cases x <;> simp [bind, Except.bind]

theorem except_bind_eq_error : (x >>= f) = .error e ↔ x = .error e ∨ ∃ a, x = .ok a ∧ f a = .error e := by
  cases x <;> simp [bind, Except.bind]

theorem except_ok_bind (a : α) (f : α → Except ε β) : ((.ok a : Except ε α) >>= f) = f a := rfl

theorem except_error_bind (e : ε) (f : α → Except ε β) : ((.error e : Except ε α) >>= f) = .error e := rfl

theorem exists_error_of_not_ok (h : ¬ ∃ a, x = .ok a) : ∃ e, x = .error e := by
  cases x with
  | ok a => exact absurd ⟨a, rfl⟩ h
  | error e => exact ⟨e, rfl⟩

theorem exists_first_of_not_forall {P : α → Prop} (h : ¬ ∀ y ∈ xs, P y) :
    ∃ before y after, xs = before ++ y :: after ∧ (∀ z ∈ before, P z) ∧ ¬ P y := by
  induction xs with
  | nil => simp at h
  | cons y ys ih =>
    by_cases hy : P y
    · have hys : ¬ ∀ z ∈ ys, P z := fun hys => h (List.forall_mem_cons.2 ⟨hy, hys⟩)
      obtain ⟨before, z, after, rfl, hbefore, hz⟩ := ih hys
      exact ⟨y :: before, z, after, rfl, List.forall_mem_cons.2 ⟨hy, hbefore⟩, hz⟩
    · exact ⟨[], y, ys, rfl, by simp, hy⟩

theorem exists_of_forall₂_of_mem {R : α → β → Prop} (h : List.Forall₂ R xs ys) (ha : a ∈ xs) :
    ∃ b ∈ ys, R a b := by
  induction h with
  | nil => simp at ha
  | cons hr _ ih =>
    rcases List.mem_cons.1 ha with rfl | ha
    · exact ⟨_, List.mem_cons_self, hr⟩
    · obtain ⟨b, hb, hr⟩ := ih ha
      exact ⟨b, List.mem_cons_of_mem _ hb, hr⟩

theorem mapM_cons_bind (f : α → Except ε β) (a : α) (xs : List α) :
    (a :: xs).mapM f = f a >>= fun b => xs.mapM f >>= fun ys => .ok (b :: ys) := List.mapM_cons

theorem mapM_eq_ok_iff : xs.mapM f = .ok ys ↔ List.Forall₂ (fun x y => f x = .ok y) xs ys := by
  induction xs generalizing ys with
  | nil => cases ys <;> simp [pure, Except.pure]
  | cons a xs ih =>
    simp only [mapM_cons_bind, except_bind_eq_ok, ih, Except.ok.injEq]
    constructor
    · rintro ⟨y, hy, ys, hys, rfl⟩
      exact .cons hy hys
    · rintro (_ | ⟨hy, hys⟩)
      exact ⟨_, hy, _, hys, rfl⟩

theorem exists_mapM_eq_ok (h : ∀ x ∈ xs, ∃ y, f x = .ok y) : ∃ ys, xs.mapM f = .ok ys := by
  induction xs with
  | nil => exact ⟨[], rfl⟩
  | cons a xs ih =>
    obtain ⟨⟨y, hy⟩, hxs⟩ := List.forall_mem_cons.1 h
    obtain ⟨ys, hys⟩ := ih hxs
    exact ⟨y :: ys, by rw [mapM_cons_bind, hy, except_ok_bind, hys, except_ok_bind]⟩

theorem mapM_append_cons_of_error (hbefore : ∀ y ∈ before, ∃ b, f y = .ok b) (ha : f a = .error e)
    (after : List α) : (before ++ a :: after).mapM f = .error e := by
  induction before with
  | nil => rw [List.nil_append, mapM_cons_bind, ha, except_error_bind]
  | cons y before ih =>
    obtain ⟨⟨b, hb⟩, hbefore⟩ := List.forall_mem_cons.1 hbefore
    rw [List.cons_append, mapM_cons_bind, hb, except_ok_bind, ih hbefore, except_error_bind]

theorem mapM_eq_error_iff : xs.mapM f = .error e ↔
    ∃ before a after, xs = before ++ a :: after ∧ (∀ y ∈ before, ∃ b, f y = .ok b) ∧ f a = .error e := by
  constructor
  · intro h
    have hall : ¬ ∀ y ∈ xs, ∃ b, f y = .ok b := fun hall => by
      obtain ⟨ys, hys⟩ := exists_mapM_eq_ok hall
      rw [hys] at h
      cases h
    obtain ⟨before, a, after, rfl, hbefore, ha⟩ := exists_first_of_not_forall hall
    obtain ⟨e', he'⟩ := exists_error_of_not_ok ha
    rw [mapM_append_cons_of_error hbefore he'] at h
    cases h
    exact ⟨before, a, after, rfl, hbefore, he'⟩
  · rintro ⟨before, a, after, rfl, hbefore, ha⟩
    exact mapM_append_cons_of_error hbefore ha after

end TimingTable
