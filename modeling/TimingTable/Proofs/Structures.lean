import TimingTable.Decode
import TimingTable.Proofs.Except

/-!
# Structures and lists

A structure is accepted in two shapes: an object with a right value for each field under its name, or an
array with a right value for each field in its place (`structured_eq_ok_iff`). Anything else is refused
for one reason (`structured_eq_error_iff`): in an object the first wrong value by the name of its field,
and only then the first field that is missing; in an array the first wrong item, and only then its
length. A list is refused for its first wrong item (`list_eq_error_iff`).
-/

namespace TimingTable
namespace Decoder
variable {α : Type} {name : String} {f g : Field α} {fs before after : List (Field α)}
  {as : List α} {entries : List (String × Data)} {us vs : List Data} {v : Data} {e tooFew tooMany : DecodeError}

/-- The value is right for the field. -/
def Field.Right (f : Field α) (v : Data) : Prop := ∃ a, f.decode v = .ok a

/-- What an object has under the name of the field, if anything, is right for it. -/
def Field.RightIn (entries : List (String × Data)) (f : Field α) : Prop :=
  ∀ v, entries.lookup f.name = some v → f.Right v

/-- There are as many items as fields, and each is read by the field in its place. -/
inductive ReadInOrder : List (Field α) → List Data → List α → Prop
  | nil : ReadInOrder [] [] []
  | cons {f : Field α} {fs : List (Field α)} {v : Data} {vs : List Data} {a : α} {as : List α}
    (h : f.decode v = .ok a) (hrest : ReadInOrder fs vs as) : ReadInOrder (f :: fs) (v :: vs) (a :: as)

/-- A value has the fields of a structure, by their names or in their order. -/
inductive Accepts (fs : List (Field α)) : Data → List α → Prop
  | object {entries : List (String × Data)} {as : List α}
    (h : List.Forall₂ (fun f a => ∃ v, entries.lookup f.name = some v ∧ f.decode v = .ok a) fs as) :
    Accepts fs (.object entries) as
  | array {vs : List Data} {as : List α} (h : ReadInOrder fs vs as) : Accepts fs (.array vs) as

/-- Why a value is not a structure. Values in an object come in the order of their names, missing fields
and items in the order of the fields, and wrong values before all else. -/
inductive Refuses (name : String) (fs : List (Field α)) : Data → DecodeError → Prop
  | wrongValue {entries : List (String × Data)} {f : Field α} {v : Data} {e : DecodeError} (hf : f ∈ fs)
    (hv : entries.lookup f.name = some v) (he : f.decode v = .error e)
    (hfirst : ∀ g ∈ fs, g.name < f.name → g.RightIn entries) : Refuses name fs (.object entries) e
  | missing {entries : List (String × Data)} {before after : List (Field α)} {f : Field α}
    (hfs : fs = before ++ f :: after) (hright : ∀ g ∈ fs, g.RightIn entries)
    (hbefore : ∀ g ∈ before, entries.lookup g.name ≠ none) (hf : entries.lookup f.name = none) :
    Refuses name fs (.object entries) (.missingField f.name)
  | wrongItem {before after : List (Field α)} {f : Field α} {us vs : List Data} {v : Data}
    {e : DecodeError} (hfs : fs = before ++ f :: after) (hus : List.Forall₂ Field.Right before us)
    (he : f.decode v = .error e) : Refuses name fs (.array (us ++ v :: vs)) e
  | tooFew {before after : List (Field α)} {f : Field α} {vs : List Data}
    (hfs : fs = before ++ f :: after) (hvs : List.Forall₂ Field.Right before vs) :
    Refuses name fs (.array vs) (.tooFewItems vs.length name fs.length)
  | tooMany {us vs : List Data} {v : Data} (hus : List.Forall₂ Field.Right fs us) :
    Refuses name fs (.array (us ++ v :: vs)) (.tooManyItems (us ++ v :: vs).length)
  | wrongKind {v : Data} (hobject : ∀ entries, v ≠ .object entries) (harray : ∀ vs, v ≠ .array vs) :
    Refuses name fs v (.wrongType v (.structure name))

/-! ## Fields by name -/

theorem insertByName_perm (f : Field α) (fs : List (Field α)) : (insertByName f fs).Perm (f :: fs) := by
  induction fs with
  | nil => exact .rfl
  | cons g fs ih =>
    rw [insertByName]
    split
    · exact .rfl
    · exact (ih.cons g).trans (.swap f g fs)

theorem byName_perm (fs : List (Field α)) : (byName fs).Perm fs := by
  induction fs with
  | nil => exact .rfl
  | cons f fs ih => exact (insertByName_perm f (byName fs)).trans (ih.cons f)

theorem pairwise_insertByName (f : Field α) (h : fs.Pairwise fun g g' => g.name ≤ g'.name) :
    (insertByName f fs).Pairwise fun g g' => g.name ≤ g'.name := by
  induction fs with
  | nil => exact List.pairwise_singleton _ f
  | cons g fs ih =>
    obtain ⟨hg, hfs⟩ := List.pairwise_cons.1 h
    rw [insertByName]
    split
    · next hfg =>
      refine List.pairwise_cons.2 ⟨fun g' hg' => ?_, h⟩
      rcases List.mem_cons.1 hg' with rfl | hg'
      · exact hfg
      · exact String.le_trans hfg (hg g' hg')
    · next hfg =>
      refine List.pairwise_cons.2 ⟨fun g' hg' => ?_, ih hfs⟩
      rcases List.mem_cons.1 ((insertByName_perm f fs).mem_iff.1 hg') with rfl | hg'
      · exact (String.le_total _ _).resolve_left hfg
      · exact hg g' hg'

theorem pairwise_byName (fs : List (Field α)) : (byName fs).Pairwise fun g g' => g.name ≤ g'.name := by
  induction fs with
  | nil => exact .nil
  | cons f fs ih => exact pairwise_insertByName f ih

theorem pairwise_lt_byName (hname : (fs.map (·.name)).Nodup) :
    (byName fs).Pairwise fun g g' => g.name < g'.name := by
  have hne : (byName fs).Pairwise fun g g' => g.name ≠ g'.name :=
    List.pairwise_map.1 (((byName_perm fs).map _).nodup_iff.2 hname)
  exact ((pairwise_byName fs).and hne).imp fun ⟨hle, hne⟩ =>
    String.not_le.1 fun hge => hne (String.le_antisymm hle hge)

/-- Where names are distinct, the fields before one in alphabetical order are those with lesser names. -/
theorem mem_before_iff (hname : (fs.map (·.name)).Nodup) (h : byName fs = before ++ f :: after) :
    g ∈ before ↔ g ∈ fs ∧ g.name < f.name := by
  have hlt := pairwise_lt_byName hname
  rw [h, List.pairwise_append, List.pairwise_cons] at hlt
  obtain ⟨-, ⟨hafter, -⟩, hbefore⟩ := hlt
  rw [← (byName_perm fs).mem_iff, h]
  constructor
  · exact fun hg => ⟨List.mem_append_left _ hg, hbefore g hg f List.mem_cons_self⟩
  · rintro ⟨hg, hgf⟩
    rcases List.mem_append.1 hg with hg | hg
    · exact hg
    · rcases List.mem_cons.1 hg with rfl | hg
      · exact absurd hgf (String.lt_irrefl _)
      · exact absurd (String.lt_trans hgf (hafter g hg)) (String.lt_irrefl _)

/-! ## Objects -/

theorem check_cons_of_none (h : entries.lookup f.name = none) :
    check entries (f :: fs) = check entries fs := by
  simp only [check, h]

theorem check_cons_of_some (h : entries.lookup f.name = some v) :
    check entries (f :: fs) = f.decode v >>= fun _ => check entries fs := by
  simp only [check, h]

theorem check_eq_ok_iff : check entries fs = .ok () ↔ ∀ f ∈ fs, f.RightIn entries := by
  induction fs with
  | nil => simp [check]
  | cons f fs ih =>
    rw [List.forall_mem_cons, ← ih]
    cases h : entries.lookup f.name with
    | none => simp [check_cons_of_none h, Field.RightIn, h]
    | some v => simp [check_cons_of_some h, except_bind_eq_ok, Field.RightIn, Field.Right, h]

theorem check_append (h : ∀ g ∈ before, g.RightIn entries) (fs : List (Field α)) :
    check entries (before ++ fs) = check entries fs := by
  induction before with
  | nil => rfl
  | cons g before ih =>
    obtain ⟨hg, hbefore⟩ := List.forall_mem_cons.1 h
    rw [List.cons_append]
    cases hv : entries.lookup g.name with
    | none => rw [check_cons_of_none hv, ih hbefore]
    | some v =>
      obtain ⟨a, ha⟩ := hg v hv
      rw [check_cons_of_some hv, ha, except_ok_bind, ih hbefore]

theorem check_eq_error_iff : check entries fs = .error e ↔ ∃ before f after v, fs = before ++ f :: after ∧
    (∀ g ∈ before, g.RightIn entries) ∧ entries.lookup f.name = some v ∧ f.decode v = .error e := by
  constructor
  · intro h
    have hall : ¬ ∀ f ∈ fs, f.RightIn entries := fun hall => by
      rw [check_eq_ok_iff.2 hall] at h
      cases h
    obtain ⟨before, f, after, rfl, hbefore, hf⟩ := exists_first_of_not_forall hall
    rw [Field.RightIn] at hf
    push Not at hf
    obtain ⟨v, hv, hright⟩ := hf
    obtain ⟨e', he'⟩ := exists_error_of_not_ok hright
    rw [check_append hbefore, check_cons_of_some hv, he', except_error_bind] at h
    cases h
    exact ⟨before, f, after, v, rfl, hbefore, hv, he'⟩
  · rintro ⟨before, f, after, v, rfl, hbefore, hv, he⟩
    rw [check_append hbefore, check_cons_of_some hv, he, except_error_bind]

theorem present_cons_of_none (h : entries.lookup f.name = none) :
    present entries (f :: fs) = .error (.missingField f.name) := by
  simp only [present, h]

theorem present_cons_of_some (h : entries.lookup f.name = some v) : present entries (f :: fs) =
    f.decode v >>= fun a => present entries fs >>= fun as => .ok (a :: as) := by
  simp only [present, h]
  rfl

theorem present_eq_ok_iff : present entries fs = .ok as ↔
    List.Forall₂ (fun f a => ∃ v, entries.lookup f.name = some v ∧ f.decode v = .ok a) fs as := by
  induction fs generalizing as with
  | nil => cases as <;> simp [present]
  | cons f fs ih =>
    cases h : entries.lookup f.name with
    | none => cases as <;> simp [present_cons_of_none h, h]
    | some v =>
      simp only [present_cons_of_some h, except_bind_eq_ok, ih, Except.ok.injEq]
      constructor
      · rintro ⟨a, ha, as, has, rfl⟩
        exact .cons ⟨v, h, ha⟩ has
      · rintro (_ | ⟨⟨v', hv', ha⟩, has⟩)
        rw [h, Option.some.injEq] at hv'
        subst hv'
        exact ⟨_, ha, _, has, rfl⟩

/-- Where no value is wrong, the only error is that of a missing field. -/
theorem present_append_of_none (hright : ∀ g ∈ before, g.RightIn entries)
    (hbefore : ∀ g ∈ before, entries.lookup g.name ≠ none) (hf : entries.lookup f.name = none)
    (after : List (Field α)) :
    present entries (before ++ f :: after) = .error (.missingField f.name) := by
  induction before with
  | nil => exact present_cons_of_none hf
  | cons g before ih =>
    obtain ⟨hg, hright⟩ := List.forall_mem_cons.1 hright
    obtain ⟨hthere, hbefore⟩ := List.forall_mem_cons.1 hbefore
    obtain ⟨v, hv⟩ := Option.ne_none_iff_exists'.1 hthere
    obtain ⟨a, ha⟩ := hg v hv
    rw [List.cons_append, present_cons_of_some hv, ha, except_ok_bind, ih hright hbefore,
      except_error_bind]

theorem exists_present_eq_ok (hright : ∀ f ∈ fs, f.RightIn entries)
    (hthere : ∀ f ∈ fs, entries.lookup f.name ≠ none) : ∃ as, present entries fs = .ok as := by
  induction fs with
  | nil => exact ⟨[], rfl⟩
  | cons f fs ih =>
    obtain ⟨hf, hright⟩ := List.forall_mem_cons.1 hright
    obtain ⟨hv, hthere⟩ := List.forall_mem_cons.1 hthere
    obtain ⟨v, hv⟩ := Option.ne_none_iff_exists'.1 hv
    obtain ⟨a, ha⟩ := hf v hv
    obtain ⟨as, has⟩ := ih hright hthere
    exact ⟨a :: as, by rw [present_cons_of_some hv, ha, except_ok_bind, has, except_ok_bind]⟩

theorem present_eq_error_iff (hright : ∀ f ∈ fs, f.RightIn entries) :
    present entries fs = .error e ↔ ∃ before f after, fs = before ++ f :: after ∧
      (∀ g ∈ before, entries.lookup g.name ≠ none) ∧ entries.lookup f.name = none ∧
      e = .missingField f.name := by
  constructor
  · intro h
    have hall : ¬ ∀ f ∈ fs, entries.lookup f.name ≠ none := fun hall => by
      obtain ⟨as, has⟩ := exists_present_eq_ok hright hall
      rw [has] at h
      cases h
    obtain ⟨before, f, after, rfl, hbefore, hf⟩ := exists_first_of_not_forall hall
    have hright' : ∀ g ∈ before, g.RightIn entries := fun g hg => hright g (List.mem_append_left _ hg)
    rw [ne_eq, not_not] at hf
    rw [present_append_of_none hright' hbefore hf] at h
    cases h
    exact ⟨before, f, after, rfl, hbefore, hf, rfl⟩
  · rintro ⟨before, f, after, rfl, hbefore, hf, rfl⟩
    exact present_append_of_none (fun g hg => hright g (List.mem_append_left _ hg)) hbefore hf after

/-! ## Arrays -/

theorem inOrder_cons (tooFew tooMany : DecodeError) (f : Field α) (fs : List (Field α)) (v : Data)
    (vs : List Data) : inOrder tooFew tooMany (f :: fs) (v :: vs) =
      f.decode v >>= fun a => inOrder tooFew tooMany fs vs >>= fun as => .ok (a :: as) := rfl

theorem inOrder_eq_ok_iff : inOrder tooFew tooMany fs vs = .ok as ↔ ReadInOrder fs vs as := by
  constructor
  · intro h
    induction fs generalizing vs as with
    | nil =>
      cases vs with
      | nil => cases h; exact .nil
      | cons => cases h
    | cons f fs ih =>
      cases vs with
      | nil => cases h
      | cons v vs =>
        rw [inOrder_cons, except_bind_eq_ok] at h
        obtain ⟨a, ha, h⟩ := h
        rw [except_bind_eq_ok] at h
        obtain ⟨as, has, h⟩ := h
        cases h
        exact .cons ha (ih has)
  · intro h
    induction h with
    | nil => rfl
    | cons ha _ ih => rw [inOrder_cons, ha, except_ok_bind, ih, except_ok_bind]

/-- Items that are right in their places leave the outcome to those after them. -/
theorem inOrder_append_eq_error_iff (h : List.Forall₂ Field.Right before us) (fs : List (Field α))
    (vs : List Data) : inOrder tooFew tooMany (before ++ fs) (us ++ vs) = .error e ↔
      inOrder tooFew tooMany fs vs = .error e := by
  induction h with
  | nil => rfl
  | cons hv _ ih =>
    obtain ⟨a, ha⟩ := hv
    rw [List.cons_append, List.cons_append, inOrder_cons, ha, except_ok_bind, except_bind_eq_error, ih]
    simp

theorem inOrder_of_fewer (h : List.Forall₂ Field.Right before vs) (f : Field α)
    (after : List (Field α)) : inOrder tooFew tooMany (before ++ f :: after) vs = .error tooFew := by
  have hend : inOrder tooFew tooMany (before ++ f :: after) (vs ++ []) = .error tooFew :=
    (inOrder_append_eq_error_iff h (f :: after) []).2 rfl
  rwa [List.append_nil] at hend

theorem inOrder_of_more (h : List.Forall₂ Field.Right fs us) (v : Data) (vs : List Data) :
    inOrder tooFew tooMany fs (us ++ v :: vs) = .error tooMany := by
  have hend : inOrder tooFew tooMany (fs ++ []) (us ++ v :: vs) = .error tooMany :=
    (inOrder_append_eq_error_iff h [] (v :: vs)).2 rfl
  rwa [List.append_nil] at hend

theorem exists_forall₂_right (fs : List (Field α)) (vs : List Data) :
    ∃ before fs' us vs', fs = before ++ fs' ∧ vs = us ++ vs' ∧ List.Forall₂ Field.Right before us ∧
      ∀ f ∈ fs'.head?, ∀ v ∈ vs'.head?, ¬ f.Right v := by
  induction fs generalizing vs with
  | nil => exact ⟨[], [], [], vs, rfl, rfl, .nil, by simp⟩
  | cons f fs ih =>
    cases vs with
    | nil => exact ⟨[], f :: fs, [], [], rfl, rfl, .nil, by simp⟩
    | cons v vs =>
      by_cases hv : f.Right v
      · obtain ⟨before, fs', us, vs', rfl, rfl, hright, hhead⟩ := ih vs
        exact ⟨f :: before, fs', v :: us, vs', rfl, rfl, .cons hv hright, hhead⟩
      · exact ⟨[], f :: fs, [], v :: vs, rfl, rfl, .nil, by simpa using hv⟩

/-! ## Structures -/

theorem structured_object (name : String) (fs : List (Field α)) (entries : List (String × Data)) :
    structured name fs (.object entries) = check entries (byName fs) >>= fun _ => present entries fs := rfl

theorem structured_array (name : String) (fs : List (Field α)) (vs : List Data) :
    structured name fs (.array vs) =
      inOrder (.tooFewItems vs.length name fs.length) (.tooManyItems vs.length) fs vs := rfl

theorem check_byName_eq_ok_iff : check entries (byName fs) = .ok () ↔ ∀ f ∈ fs, f.RightIn entries := by
  simp only [check_eq_ok_iff, (byName_perm fs).mem_iff]

theorem structured_eq_ok_iff : structured name fs v = .ok as ↔ Accepts fs v as := by
  constructor
  · intro h
    cases v with
    | object entries =>
      rw [structured_object, except_bind_eq_ok] at h
      obtain ⟨-, -, h⟩ := h
      exact .object (present_eq_ok_iff.1 h)
    | array vs => exact .array (inOrder_eq_ok_iff.1 h)
    | null | bool | int | float | string => cases h
  · intro h
    cases h with
    | @object entries as h =>
      have hright : ∀ f ∈ fs, f.RightIn entries := by
        intro f hf v hv
        obtain ⟨a, -, v', hv', ha⟩ := exists_of_forall₂_of_mem h hf
        rw [hv, Option.some.injEq] at hv'
        exact ⟨a, hv' ▸ ha⟩
      rw [structured_object, check_byName_eq_ok_iff.2 hright, except_ok_bind]
      exact present_eq_ok_iff.2 h
    | array h => exact inOrder_eq_ok_iff.2 h

theorem refuses_of_structured (hname : (fs.map (·.name)).Nodup) (h : structured name fs v = .error e) :
    Refuses name fs v e := by
  cases v with
  | object entries =>
    rw [structured_object, except_bind_eq_error] at h
    rcases h with h | ⟨_, hcheck, h⟩
    · obtain ⟨before, f, after, v, hsplit, hbefore, hv, he⟩ := check_eq_error_iff.1 h
      have hf : f ∈ fs := (byName_perm fs).mem_iff.1 (by simp [hsplit])
      exact .wrongValue hf hv he fun g hg hlt => hbefore g ((mem_before_iff hname hsplit).2 ⟨hg, hlt⟩)
    · have hright := check_byName_eq_ok_iff.1 hcheck
      obtain ⟨before, f, after, hsplit, hbefore, hf, rfl⟩ := (present_eq_error_iff hright).1 h
      exact .missing hsplit hright hbefore hf
  | array vs =>
    rw [structured_array] at h
    obtain ⟨before, fs', us, vs', hfs, hvs, hright, hhead⟩ := exists_forall₂_right fs vs
    rw [hfs, hvs, inOrder_append_eq_error_iff hright, ← hfs, ← hvs] at h
    cases fs' with
    | nil =>
      cases vs' with
      | nil => cases h
      | cons v vs' =>
        cases h
        rw [List.append_nil] at hfs
        rw [hvs]
        exact .tooMany (hfs ▸ hright)
    | cons f fs' =>
      cases vs' with
      | nil =>
        cases h
        rw [List.append_nil] at hvs
        exact .tooFew hfs (hvs ▸ hright)
      | cons v vs' =>
        obtain ⟨e', he'⟩ := exists_error_of_not_ok (hhead f rfl v rfl)
        rw [inOrder_cons, he', except_error_bind] at h
        cases h
        rw [hvs]
        exact .wrongItem hfs hright he'
  | null | bool | int | float | string => cases h; exact .wrongKind nofun nofun

theorem structured_of_refuses (hname : (fs.map (·.name)).Nodup) (h : Refuses name fs v e) :
    structured name fs v = .error e := by
  cases h with
  | wrongValue hf hv he hfirst =>
    obtain ⟨before, after, hsplit⟩ := List.append_of_mem ((byName_perm fs).mem_iff.2 hf)
    have hbefore : ∀ g ∈ before, g.RightIn _ := fun g hg =>
      have ⟨hgfs, hlt⟩ := (mem_before_iff hname hsplit).1 hg
      hfirst g hgfs hlt
    rw [structured_object, check_eq_error_iff.2 ⟨before, _, after, _, hsplit, hbefore, hv, he⟩,
      except_error_bind]
  | missing hfs hright hbefore hf =>
    rw [structured_object, check_byName_eq_ok_iff.2 hright, except_ok_bind]
    exact (present_eq_error_iff hright).2 ⟨_, _, _, hfs, hbefore, hf, rfl⟩
  | wrongItem hfs hus he =>
    rw [structured_array, hfs, inOrder_append_eq_error_iff hus, inOrder_cons, he, except_error_bind]
  | tooFew hfs hvs =>
    subst hfs
    rw [structured_array, inOrder_of_fewer hvs]
  | tooMany hus => rw [structured_array, inOrder_of_more hus]
  | wrongKind hobject harray =>
    cases v with
    | object entries => exact absurd rfl (hobject entries)
    | array vs => exact absurd rfl (harray vs)
    | null | bool | int | float | string => rfl

theorem structured_eq_error_iff (hname : (fs.map (·.name)).Nodup) :
    structured name fs v = .error e ↔ Refuses name fs v e :=
  ⟨refuses_of_structured hname, structured_of_refuses hname⟩

theorem check_congr {entries' : List (String × Data)}
    (h : ∀ f ∈ fs, entries.lookup f.name = entries'.lookup f.name) :
    check entries fs = check entries' fs := by
  induction fs with
  | nil => rfl
  | cons f fs ih =>
    obtain ⟨hf, hfs⟩ := List.forall_mem_cons.1 h
    rw [check, check, hf, ih hfs]

theorem present_congr {entries' : List (String × Data)}
    (h : ∀ f ∈ fs, entries.lookup f.name = entries'.lookup f.name) :
    present entries fs = present entries' fs := by
  induction fs with
  | nil => rfl
  | cons f fs ih =>
    obtain ⟨hf, hfs⟩ := List.forall_mem_cons.1 h
    rw [present, present, hf, ih hfs]

/-- Only the entries of its fields matter to a structure. -/
theorem structured_congr {entries' : List (String × Data)}
    (h : ∀ f ∈ fs, entries.lookup f.name = entries'.lookup f.name) :
    structured name fs (.object entries) = structured name fs (.object entries') := by
  have hsorted : ∀ f ∈ byName fs, entries.lookup f.name = entries'.lookup f.name := fun f hf =>
    h f ((byName_perm fs).mem_iff.1 hf)
  rw [structured_object, structured_object, check_congr hsorted, present_congr h]

theorem Accepts.length_eq (h : Accepts fs v as) : as.length = fs.length := by
  cases h with
  | object h => exact h.length_eq.symm
  | array h =>
    induction h with
    | nil => rfl
    | cons _ _ ih => rw [List.length_cons, List.length_cons, ih]

/-! ## Texts and lists -/

theorem string_eq_ok_iff {expected : Expected} {s : String} :
    string expected v = .ok s ↔ v = .string s := by
  cases v <;> simp [string]

theorem list_eq_ok_iff {item : Decoder α} :
    list item v = .ok as ↔ ∃ vs, v = .array vs ∧ List.Forall₂ (fun v a => item v = .ok a) vs as := by
  cases v with
  | array vs =>
    have hlist : list item (.array vs) = vs.mapM item := rfl
    rw [hlist, mapM_eq_ok_iff]
    simp
  | null | bool | int | float | string | object => simp [list]

theorem list_eq_error_iff {item : Decoder α} : list item v = .error e ↔
    (∀ vs, v ≠ .array vs) ∧ e = .wrongType v .sequence ∨
      ∃ us u vs, v = .array (us ++ u :: vs) ∧ (∀ w ∈ us, ∃ a, item w = .ok a) ∧ item u = .error e := by
  cases v with
  | array vs =>
    have hlist : list item (.array vs) = vs.mapM item := rfl
    rw [hlist, mapM_eq_error_iff]
    simp
  | null | bool | int | float | string | object => simp [list, eq_comm]

/-- Text fields read an array of as many texts. -/
theorem readInOrder_string_iff {expected : Expected} {names ss : List String} :
    ReadInOrder (names.map (⟨·, string expected⟩)) vs ss ↔
      names.length = ss.length ∧ vs = ss.map .string := by
  constructor
  · intro h
    induction names generalizing vs ss with
    | nil => cases h; exact ⟨rfl, rfl⟩
    | cons name names ih =>
      cases h with
      | cons h hrest =>
        obtain ⟨hlength, rfl⟩ := ih hrest
        exact ⟨by simp [hlength], by rw [string_eq_ok_iff.1 h, List.map_cons]⟩
  · rintro ⟨hlength, rfl⟩
    induction names generalizing ss with
    | nil =>
      cases ss with
      | nil => exact .nil
      | cons => simp at hlength
    | cons name names ih =>
      cases ss with
      | nil => simp at hlength
      | cons s ss => exact .cons rfl (ih (by simpa using hlength))

end Decoder

end TimingTable
