import TimingTable.Proofs.ReportShape
import TimingTable.Proofs.Rounds

/-!
# Reports tell rows apart

Rows without bars and line feeds can be told from their report. The report gives back the lines of the
rows, for its table is one line for each of them (`map_rowLine_eq_of_render_eq`), and a line gives back
its fields, for they are what stands between its bars (`markdown_rowLine_inj`). On the console a field is
filled up with spaces first, so two rows have the same line exactly when they are filled up to the same
row (`render_eq_render_iff`). Only spaces at the end of a field can be lost in this way
(`padRight_inj`).
-/

namespace TimingTable
open Text

/-- A row whose fields can stand between bars on one line. They may be empty, blank or not trimmed. -/
def Row.Plain (r : Row) : Prop := ∀ f ∈ r.fields, '|' ∉ f.toList ∧ '\n' ∉ f.toList

/-- No field of the row ends in a space. -/
def Row.NoSpaceEnd (r : Row) : Prop := ∀ f ∈ r.fields, f.toList.getLast? ≠ some ' '

instance : DecidablePred Row.Plain := fun _ => inferInstanceAs (Decidable (∀ _ ∈ _, _))

instance : DecidablePred Row.NoSpaceEnd := fun _ => inferInstanceAs (Decidable (∀ _ ∈ _, _))

variable {r r' : Row} {rows rows' : List Row} {s t : List Char} {c : Char} {m n : Nat}

theorem Row.fields_inj (h : r.fields = r'.fields) : r = r' := by
  have hfields := congrArg Row.ofFields? h
  rwa [Row.ofFields?_fields, Row.ofFields?_fields, Option.some.injEq] at hfields

namespace Row.Plain

theorem no_bar (h : r.Plain) : ∀ f ∈ r.fields, '|' ∉ f.toList := fun f hf => (h f hf).1

theorem no_feed (h : r.Plain) : ∀ f ∈ r.fields, '\n' ∉ f.toList := fun f hf => (h f hf).2

end Row.Plain

theorem markdown_rowLine_inj (h : ∀ f ∈ r.fields, '|' ∉ f.toList) (h' : ∀ f ∈ r'.fields, '|' ∉ f.toList)
    (heq : Markdown.rowLine r = Markdown.rowLine r') : r = r' := by
  have hpieces : (r.fields.map fun f => ' ' :: (f.toList ++ [' '])) =
      r'.fields.map fun f => ' ' :: (f.toList ++ [' ']) := by
    have hsplit := congrArg (fun l : String => l.toList.splitOn '|') heq
    simp only [splitOn_markdown_rowLine h, splitOn_markdown_rowLine h'] at hsplit
    simpa using hsplit
  have hinj : Function.Injective fun f : String => ' ' :: (f.toList ++ [' ']) := fun f g hfg =>
    String.toList_inj.1 (by simpa using hfg)
  exact Row.fields_inj (List.map_injective_iff.2 hinj hpieces)

theorem eq_of_map_eq {α β : Type} {f : α → β} {P : α → Prop} {as bs : List α}
    (hf : ∀ a b, P a → P b → f a = f b → a = b) (has : ∀ a ∈ as, P a) (hbs : ∀ b ∈ bs, P b)
    (h : as.map f = bs.map f) : as = bs := by
  induction as generalizing bs with
  | nil => exact (List.map_eq_nil_iff.1 h.symm).symm
  | cons a as ih =>
    obtain ⟨b, bs, rfl, hb, hrest⟩ := List.map_eq_cons_iff.1 h.symm
    obtain ⟨ha, has⟩ := List.forall_mem_cons.1 has
    obtain ⟨hb', hbs⟩ := List.forall_mem_cons.1 hbs
    rw [hf a b ha hb' hb.symm, ih has hbs hrest.symm]

theorem eq_of_map_markdown_rowLine_eq (h : ∀ r ∈ rows, ∀ f ∈ r.fields, '|' ∉ f.toList)
    (h' : ∀ r ∈ rows', ∀ f ∈ r.fields, '|' ∉ f.toList)
    (heq : rows.map Markdown.rowLine = rows'.map Markdown.rowLine) : rows = rows' :=
  eq_of_map_eq (fun _ _ => markdown_rowLine_inj) h h' heq

theorem map_rowLine_eq_of_render_eq (form : Form) (ht : form.HasTable rows) (ht' : form.HasTable rows')
    (h : ∀ r ∈ rows, r.Plain) (h' : ∀ r ∈ rows', r.Plain) (heq : form.render rows = form.render rows') :
    rows.map form.rowLine = rows'.map form.rowLine := by
  have htable := congrArg (fun text => tableLines (lines text.toList)) heq
  simp only [tableLines_render form ht fun r hr => (h r hr).no_feed,
    tableLines_render form ht' fun r hr => (h' r hr).no_feed, List.cons.injEq, true_and] at htable
  have hinj : Function.Injective String.toList := fun _ _ => String.toList_inj.1
  exact List.map_injective_iff.2 hinj (by simpa [Function.comp_def] using htable)

theorem markdown_render_inj (h : ∀ r ∈ rows, r.Plain) (h' : ∀ r ∈ rows', r.Plain)
    (heq : Markdown.render rows = Markdown.render rows') : rows = rows' :=
  eq_of_map_markdown_rowLine_eq (fun r hr => (h r hr).no_bar) (fun r hr => (h' r hr).no_bar)
    (map_rowLine_eq_of_render_eq .markdown (Form.hasTable_markdown _) (Form.hasTable_markdown _) h h' heq)

theorem map_console_rowLine (rows : List Row) :
    rows.map Console.rowLine = (rows.map Row.padded).map Markdown.rowLine := by
  rw [List.map_map]
  exact List.map_congr_left fun r _ => console_rowLine r

/-- A console report shows rows as they are when they are filled up, and shows all of that. -/
theorem console_render_eq_iff (h : ∀ r ∈ rows, r.Plain) (h' : ∀ r ∈ rows', r.Plain) :
    Console.render rows = Console.render rows' ↔ rows.map Row.padded = rows'.map Row.padded := by
  constructor
  · intro heq
    by_cases hne : rows = []
    · -- what says that there are no rows is the report of no rows only
      subst hne
      rw [console_render_nil] at heq
      rw [Console.render_eq_noResults_iff.1 heq.symm]
    · have hne' : rows' ≠ [] := by
        rintro rfl
        rw [console_render_nil] at heq
        exact hne (Console.render_eq_noResults_iff.1 heq)
      have hlines : rows.map Console.rowLine = rows'.map Console.rowLine :=
        map_rowLine_eq_of_render_eq .console (Form.hasTable_of_ne_nil .console hne)
          (Form.hasTable_of_ne_nil .console hne') h h' heq
      rw [map_console_rowLine, map_console_rowLine] at hlines
      refine eq_of_map_markdown_rowLine_eq ?_ ?_ hlines
      · exact List.forall_mem_map.2 fun r hr => bar_not_mem_padded (h r hr).no_bar
      · exact List.forall_mem_map.2 fun r hr => bar_not_mem_padded (h' r hr).no_bar
  · intro heq
    have hlength : rows.length = rows'.length := by simpa using congrArg List.length heq
    have hnil : rows = [] ↔ rows' = [] := by
      rw [← List.length_eq_zero_iff, hlength, List.length_eq_zero_iff]
    simp only [Console.render, map_console_rowLine, heq, hlength, hnil]

theorem eq_nil_of_prefix_replicate (hlast : (s ++ t).getLast? ≠ some c) (ht : t <+: List.replicate n c) :
    t = [] := by
  cases hd : t.getLast? with
  | none => exact List.getLast?_eq_none_iff.1 hd
  | some d =>
    have hdc : d = c := List.eq_of_mem_replicate (ht.subset (List.mem_of_getLast? hd))
    rw [List.getLast?_append, hd, hdc] at hlast
    exact absurd rfl hlast

/-- What is filled up with a character that it does not end in can be told from the result. -/
theorem eq_of_append_replicate_eq (hs : s.getLast? ≠ some c) (ht : t.getLast? ≠ some c)
    (h : s ++ List.replicate m c = t ++ List.replicate n c) : s = t := by
  rcases List.append_eq_append_iff.1 h with ⟨u, rfl, hu⟩ | ⟨u, rfl, hu⟩
  · rw [eq_nil_of_prefix_replicate ht ⟨_, hu.symm⟩, List.append_nil]
  · rw [eq_nil_of_prefix_replicate hs ⟨_, hu.symm⟩, List.append_nil]

theorem padRight_inj {width : Nat} {f g : String} (hf : f.toList.getLast? ≠ some ' ')
    (hg : g.toList.getLast? ≠ some ' ') (h : padRight width f = padRight width g) : f = g := by
  rw [← String.toList_inj, toList_padRight, toList_padRight] at h
  exact String.toList_inj.1 (eq_of_append_replicate_eq hf hg h)

theorem Row.padded_inj (h : r.NoSpaceEnd) (h' : r'.NoSpaceEnd) (heq : r.padded = r'.padded) : r = r' := by
  simp only [NoSpaceEnd, fields, List.forall_mem_cons] at h h'
  obtain ⟨hruntime, hmin, hmax, havg⟩ := Row.mk.inj heq
  rw [Row.mk.injEq]
  exact ⟨padRight_inj h.1 h'.1 hruntime, padRight_inj h.2.1 h'.2.1 hmin,
    padRight_inj h.2.2.1 h'.2.2.1 hmax, padRight_inj h.2.2.2.1 h'.2.2.2.1 havg⟩

/-- Different rows have different reports, as long as their fields have no bars and no line feeds. On
the console that holds of rows as they are filled up, and so of rows whose fields do not end in a space;
and what says that there are no results is the report of no rows only. -/
theorem render_eq_render_iff (rows rows' : List Row) (h : ∀ r ∈ rows, r.Plain)
    (h' : ∀ r ∈ rows', r.Plain) :
    (Markdown.render rows = Markdown.render rows' ↔ rows = rows') ∧
      (Console.render rows = Console.render rows' ↔ rows.map Row.padded = rows'.map Row.padded) ∧
      ((∀ r ∈ rows, r.NoSpaceEnd) → (∀ r ∈ rows', r.NoSpaceEnd) →
        (Console.render rows = Console.render rows' ↔ rows = rows')) ∧
      (Console.render rows = "No benchmark results found\n" ↔ rows = []) := by
  refine ⟨⟨markdown_render_inj h h', congrArg _⟩, console_render_eq_iff h h', fun hend hend' => ?_,
    Console.render_eq_noResults_iff⟩
  have hinj : rows.map Row.padded = rows'.map Row.padded → rows = rows' :=
    eq_of_map_eq (fun _ _ => Row.padded_inj) hend hend'
  exact ⟨fun heq => hinj ((console_render_eq_iff h h').1 heq), congrArg _⟩

/-- Words of a header, empty, blank and untrimmed fields, and one that is wider than its column. -/
def wideRows (wide : String) : List Row := [⟨"Runtime", "Min", "", " x"⟩, ⟨"", "\t", wide, "a\r"⟩]

theorem render_eq_render_iff_wide :
    (∀ r ∈ wideRows "1234567", r.Plain) ∧ (∀ r ∈ wideRows "1234568", r.Plain) ∧
      (∀ r ∈ wideRows "1234567", r.NoSpaceEnd) ∧ (∀ r ∈ wideRows "1234568", r.NoSpaceEnd) ∧
      Console.render (wideRows "1234567") ≠ Console.render (wideRows "1234568") := by
  have h : ∀ r ∈ wideRows "1234567", r.Plain := by decide
  have h' : ∀ r ∈ wideRows "1234568", r.Plain := by decide
  have hend : ∀ r ∈ wideRows "1234567", r.NoSpaceEnd := by decide
  have hend' : ∀ r ∈ wideRows "1234568", r.NoSpaceEnd := by decide
  refine ⟨h, h', hend, hend', fun heq => ?_⟩
  exact absurd (((render_eq_render_iff _ _ h h').2.2.1 hend hend').1 heq) (by decide)

/-- A space at the end of a field cannot be seen on the console. -/
example : Console.render [⟨"go ", "1", "5", "3"⟩] = Console.render [⟨"go", "1", "5", "3"⟩] := by
  decide

end TimingTable
