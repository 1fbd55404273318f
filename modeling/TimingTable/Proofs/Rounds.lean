import TimingTable.Proofs.RoundTrip

/-!
# Rounds of reports

A round that writes a table puts its own line of dashes in front of the rows that it read
(`parse_render_parse`): they are the rows of a log, so they all come back. Such a report is never the
text that was read (`render_parse_ne`). The one report without a table is that of no rows on the
console. It is read as no rows again, so rounds stay there until the first markdown report
(`parse_afterRounds_of_eq_nil`); once there are rows, all of them stay and every round adds one
(`parse_afterRounds_of_ne_nil`).
-/

namespace TimingTable
open Text

variable {text : String} {rows : List Row}

theorem afterRounds_cons (text : String) (form : Form) (forms : List Form) :
    afterRounds text (form :: forms) = afterRounds (form.render (parse text)) forms := rfl

theorem console_render_nil : Console.render [] = "No benchmark results found\n" := by decide +kernel

theorem Console.head?_render (h : rows ≠ []) : (render rows).toList.head? = some '\n' := by
  rw [render, if_neg h, head, List.cons_append, List.cons_append, toList_unlines_cons]
  rfl

/-- Only a report without rows says that there are no results. -/
theorem Console.render_eq_noResults_iff :
    render rows = "No benchmark results found\n" ↔ rows = [] := by
  constructor
  · intro h
    by_contra hne
    have hhead := head?_render hne
    rw [h] at hhead
    exact absurd hhead (by decide)
  · rintro rfl
    exact console_render_nil

theorem parse_render_parse (form : Form) (ht : form.HasTable (parse text)) :
    parse (form.render (parse text)) = form.rule :: parse text :=
  parse_render form ht fun _ hr => wellFormed_of_mem_parse hr

theorem parse_afterRounds_of_ne_nil (h : parse text ≠ []) (forms : List Form) :
    parse (afterRounds text forms) = (forms.map Form.rule).reverse ++ parse text := by
  induction forms generalizing text with
  | nil => rfl
  | cons form forms ih =>
    have hround : parse (form.render (parse text)) = form.rule :: parse text :=
      parse_render_parse form (Form.hasTable_of_ne_nil form h)
    rw [afterRounds_cons, ih (by simp [hround]), hround]
    simp

theorem parse_afterRounds_of_eq_nil (h : parse text = []) (forms : List Form) :
    parse (afterRounds text forms) = ((forms.dropWhile (· = .console)).map Form.rule).reverse := by
  induction forms generalizing text with
  | nil => exact h
  | cons form forms ih =>
    rw [afterRounds_cons]
    cases form with
    | console =>
      have hround : parse (Form.console.render (parse text)) = [] := by
        rw [h]
        exact parse_console_render_nil
      rw [ih hround, List.dropWhile_cons_of_pos (by simp)]
    | markdown =>
      -- from here on there are rows, namely the line of dashes
      have hround : parse (Form.markdown.render (parse text)) = [Form.markdown.rule] := by
        rw [parse_render_parse .markdown (Form.hasTable_markdown _), h]
      rw [parse_afterRounds_of_ne_nil (by simp [hround]), hround,
        List.dropWhile_cons_of_neg (by simp)]
      simp

theorem afterRounds_of_markdown_not_mem (h : parse text = []) {forms : List Form} (hne : forms ≠ [])
    (hforms : .markdown ∉ forms) : afterRounds text forms = "No benchmark results found\n" := by
  induction forms generalizing text with
  | nil => exact absurd rfl hne
  | cons form forms ih =>
    cases form with
    | markdown => simp at hforms
    | console =>
      have hround : Form.console.render (parse text) = "No benchmark results found\n" := by
        rw [h]
        exact console_render_nil
      rw [afterRounds_cons, hround]
      cases forms with
      | nil => rfl
      | cons next forms =>
        have hempty : parse "No benchmark results found\n" = [] := by
          rw [← console_render_nil, parse_console_render_nil]
        exact ih hempty (by simp) fun hm => hforms (List.mem_cons_of_mem _ hm)

/-- A report with a table has one row more than the text that it was made from. -/
theorem render_parse_ne (form : Form) (ht : form.HasTable (parse text)) : form.render (parse text) ≠ text := by
  intro h
  have hrows := parse_render_parse form ht
  rw [h] at hrows
  exact List.cons_ne_self _ _ hrows.symm

theorem console_render_parse_eq_iff :
    Console.render (parse text) = text ↔ text = "No benchmark results found\n" := by
  constructor
  · intro h
    by_cases hrows : parse text = []
    · rw [hrows, console_render_nil] at h
      exact h.symm
    · exact absurd h (render_parse_ne .console (Form.hasTable_of_ne_nil .console hrows))
  · rintro rfl
    rw [← console_render_nil, parse_console_render_nil]

/-- Reading reports again: every round adds its line of dashes in front, newest first, except for
console rounds before there is any row, which only say that there are no results. No text is its own
markdown report, and only that one is its own console report. -/
theorem parse_afterRounds (text : String) (forms : List Form) :
    parse (afterRounds text forms) =
        ((if parse text = [] then forms.dropWhile (· = .console) else forms).map
          Form.rule).reverse ++ parse text ∧
      (parse text = [] → ∀ before, before <+: forms → before ≠ [] → .markdown ∉ before →
        afterRounds text before = "No benchmark results found\n") ∧
      Markdown.render (parse text) ≠ text ∧
      (Console.render (parse text) = text ↔ text = "No benchmark results found\n") := by
  refine ⟨?_, fun h before _ hne hm => afterRounds_of_markdown_not_mem h hne hm,
    render_parse_ne .markdown (Form.hasTable_markdown _), console_render_parse_eq_iff⟩
  split
  · next h => rw [parse_afterRounds_of_eq_nil h, h, List.append_nil]
  · next h => exact parse_afterRounds_of_ne_nil h forms

theorem parse_afterRounds_without_rows :
    parse "warming up\n" = [] ∧
      parse (afterRounds "warming up\n" [.console, .console, .markdown, .console]) =
        [Form.console.rule, Form.markdown.rule] ∧
      afterRounds "warming up\n" [.console, .console] = "No benchmark results found\n" := by
  have h : parse "warming up\n" = [] := by decide +kernel
  obtain ⟨hrows, hbefore, -⟩ :=
    parse_afterRounds "warming up\n" [.console, .console, .markdown, .console]
  rw [if_pos h, h] at hrows
  exact ⟨h, hrows, hbefore h [.console, .console] ⟨_, rfl⟩ (by decide) (by decide)⟩

end TimingTable
