import TimingTable.Proofs.Outcomes
import TimingTable.Proofs.ReportShape

/-!
# What the level cannot change

The level says which messages go to the error stream, and that is all that it does. A command reads no
settings but the two paths (`tableRun_congr`), and what is set for these does not depend on the
variables for the level (`get_eq_of_sameButLevel`). So two environments that differ in those alone give
the same exit code, the same report and the same store (`run_of_sameButLevel`).

Nor does a message get into the report: a line of a report begins with a bar or a letter
(`Console.lineStarts_render`) and an entry with a bracket.
-/

namespace TimingTable
open Text
variable {c : Command} {settings settings' : Settings} {s : Store} {env env' : Environment}
  {rows : List Row}

namespace Console

theorem line_cases {l : String} (h : l ∈ head ++ rows.map rowLine ++ foot rows.length) :
    (∃ r ∈ rows, l = rowLine r) ∨ l = "Total: " ++ toString rows.length ++ " runtimes tested" ∨
      l ∈ "" :: head := by
  rw [List.mem_append, List.mem_append] at h
  rcases h with (h | h) | h
  · exact .inr (.inr (List.mem_cons_of_mem _ h))
  · obtain ⟨r, hr, rfl⟩ := List.mem_map.1 h
    exact .inl ⟨r, hr, rfl⟩
  · rcases List.mem_pair.1 h with rfl | rfl
    · exact .inr (.inr List.mem_cons_self)
    · exact .inr (.inl rfl)

/-- The lines of a report begin with a bar or a letter, or are empty. -/
theorem lineStarts_render (hfeed : ∀ r ∈ rows, ∀ f ∈ r.fields, '\n' ∉ f.toList) :
    LineStarts (· ≠ '[') (render rows).toList := by
  -- in this form it can be decided for a given line
  have hline : ∀ l : String, '\n' ∉ l.toList ∧ (l.toList ++ ['\n']).head? ≠ some '[' →
      '\n' ∉ l.toList ∧ ∀ c ∈ (l.toList ++ ['\n']).head?, c ≠ '[' :=
    fun l h => ⟨h.1, fun c hc hbracket => h.2 (hbracket ▸ hc)⟩
  rw [render]
  split
  · refine lineStarts_unlines fun l hl => hline l ?_
    rw [List.mem_singleton.1 hl]
    decide
  · refine lineStarts_unlines fun l hl => hline l ?_
    rcases line_cases hl with ⟨r, hr, rfl⟩ | rfl | hl
    · exact ⟨(isLine_rowLine .console (hfeed r hr)).no_feed, by simp [rowLine]⟩
    · have hdigits : ∀ n, '\n' ∉ Nat.toDigits 10 n := not_mem_toDigits (by decide)
      simp [hdigits]
    · have hfixed : ∀ l ∈ "" :: head, '\n' ∉ l.toList ∧ (l.toList ++ ['\n']).head? ≠ some '[' := by
        decide
      exact hfixed l hl

end Console

namespace Command

/-- A table that is shown is the console report of a log. -/
theorem exists_log_of_result {text : String} (h : (c.tableRun settings s).result = .ok (some text)) :
    ∃ log, text = Console.render (parse log) := by
  rcases c.tableRun_ends settings s with ⟨e, messages, -, hrun⟩ | ⟨log, _, _, t, -, rfl | rfl, hrun⟩
  · rw [hrun] at h
    cases h
  · rw [hrun] at h
    cases h
  · rw [hrun] at h
    cases h
    exact ⟨log, rfl⟩

/-- A command reads nothing of the settings but the two paths. -/
theorem tableRun_congr (hinput : settings.inputPath = settings'.inputPath)
    (hsummary : settings.summaryPath = settings'.summaryPath) (c : Command) (s : Store) :
    c.tableRun settings s = c.tableRun settings' s := by
  obtain ⟨input, summary, level⟩ := settings
  obtain ⟨input', summary', level'⟩ := settings'
  obtain rfl : input = input' := hinput
  obtain rfl : summary = summary' := hsummary
  cases c <;> rfl

/-- The variables that say how much to tell. -/
def levelVariables : List String := [verbosityVariable, "BENCHTABLE_LOG_LEVEL"]

theorem not_leads_of_mem_levelVariables {name : String} (hname : name ∈ levelVariables) {key : Key}
    (hkey : key ≠ .logLevel) : ¬ Layer.Leads name key := by
  rintro ⟨setting, hsetting, hroot⟩
  rcases List.mem_pair.1 hname with rfl | rfl
  · rw [settingName?_verbosityVariable] at hsetting
    cases hsetting
  · have hsome : Layer.settingName? "BENCHTABLE_LOG_LEVEL" = some "log_level" := by decide +kernel
    rw [hsome] at hsetting
    cases hsetting
    have hlevel : (KeyPath.read "log_level").root = Key.logLevel.name := by decide +kernel
    rw [hlevel] at hroot
    cases key with
    | logLevel => exact hkey rfl
    | inputPath => exact absurd hroot (by decide)
    | summaryPath => exact absurd hroot (by decide)

section
variable [Formats]

/-- What is set for the two paths does not depend on what is said about the level. -/
theorem get_eq_of_sameButLevel
    (henv : env.filter (·.1 ∉ levelVariables) = env'.filter (·.1 ∉ levelVariables))
    (hload : Settings.load s env = .ok settings) (hload' : Settings.load s env' = .ok settings')
    {key : Key} (hkey : key ≠ .logLevel) : settings.get key = settings'.get key :=
  Settings.get_eq_of_filter_eq henv (fun e he => not_leads_of_mem_levelVariables
    (by simpa using he) hkey) hload hload'

theorem run_of_sameButLevel
    (henv : env.filter (·.1 ∉ levelVariables) = env'.filter (·.1 ∉ levelVariables))
    (hload : Settings.load s env = .ok settings) (hload' : Settings.load s env' = .ok settings')
    (c : Command) : (c.run env s).exitCode = (c.run env' s).exitCode ∧
      (c.run env s).stdout = (c.run env' s).stdout ∧ (c.run env s).store = (c.run env' s).store := by
  have hinput : settings.get .inputPath = settings'.get .inputPath :=
    get_eq_of_sameButLevel henv hload hload' nofun
  have hsummary : settings.get .summaryPath = settings'.get .summaryPath :=
    get_eq_of_sameButLevel henv hload hload' nofun
  have hrun : c.tableRun settings s = c.tableRun settings' s := tableRun_congr hinput hsummary c s
  cases h : (c.tableRun settings s).result with
  | error e =>
    rw [run_of_report_error hload h, run_of_report_error hload' (hrun ▸ h)]
    exact ⟨rfl, rfl, rfl⟩
  | ok table =>
    rw [run_of_report_ok hload h, run_of_report_ok hload' (hrun ▸ h), hrun]
    exact ⟨rfl, rfl, rfl⟩

theorem stdout_cases (c : Command) (env : Environment) (s : Store) :
    (c.run env s).stdout = "" ∨ c.Succeeds env s (some (c.run env s).stdout) := by
  rcases c.ends env s with ⟨message, h⟩ | ⟨table, h⟩
  · obtain ⟨before, -, hrun⟩ := run_of_failsWith h
    exact .inl (by rw [hrun])
  · obtain ⟨messages, t, hrun⟩ := run_of_succeeds h
    rw [hrun]
    cases table with
    | none => exact .inl rfl
    | some text => exact .inr h

theorem lineStarts_stdout (c : Command) (env : Environment) (s : Store) :
    LineStarts (· ≠ '[') (c.run env s).stdout.toList := by
  rcases c.stdout_cases env s with h | ⟨settings, -, h⟩
  · rw [h]
    exact .nil
  · obtain ⟨log, hlog⟩ := exists_log_of_result h
    rw [hlog]
    exact Console.lineStarts_render fun r hr => (wellFormed_of_mem_parse hr).no_feed

/-- How much is told about a run is all that the variables for it change, where the settings can be
loaded. What a command prints is nothing or its report, and no line of it begins as the entries of the
error stream do. -/
theorem level_affects_stderr_only (c : Command) (s : Store) :
    (∀ env env' settings settings',
      env.filter (·.1 ∉ levelVariables) = env'.filter (·.1 ∉ levelVariables) →
      Settings.load s env = .ok settings → Settings.load s env' = .ok settings' →
      (c.run env s).exitCode = (c.run env' s).exitCode ∧
        (c.run env s).stdout = (c.run env' s).stdout ∧ (c.run env s).store = (c.run env' s).store) ∧
    ∀ env, ((c.run env s).stdout = "" ∨ c.Succeeds env s (some (c.run env s).stdout)) ∧
      ∀ line ∈ lines (c.run env s).stdout.toList, ∀ m : Message,
        line.head? ≠ m.entry.toList.head? := by
  refine ⟨fun env env' settings settings' henv hload hload' => run_of_sameButLevel henv hload hload' c,
    fun env => ⟨c.stdout_cases env s, fun line hline m => ?_⟩⟩
  rw [m.lineStarts_entry.2]
  intro hhead
  exact (c.lineStarts_stdout env s).of_mem_lines hline '[' hhead rfl

end

/-- The summary of a log, told about in full or not at all. -/
theorem level_affects_stderr_only_sample :
    List.filter (·.1 ∉ levelVariables) [("RUST_LOG", "off"), ("BENCHTABLE_INPUT_PATH", "log")] =
        List.filter (·.1 ∉ levelVariables)
          [("BENCHTABLE_INPUT_PATH", "log"), ("BENCHTABLE_LOG_LEVEL", "benchtable=trace")] ∧
      Settings.load sampleStore [("RUST_LOG", "off"), ("BENCHTABLE_INPUT_PATH", "log")] =
        .ok ⟨"log", "bench-summary.md", "warn"⟩ ∧
      Settings.load sampleStore
          [("BENCHTABLE_INPUT_PATH", "log"), ("BENCHTABLE_LOG_LEVEL", "benchtable=trace")] =
        .ok ⟨"log", "bench-summary.md", "benchtable=trace"⟩ ∧
      (summary.run [("RUST_LOG", "off"), ("BENCHTABLE_INPUT_PATH", "log")] sampleStore).stdout =
        (summary.run [("BENCHTABLE_INPUT_PATH", "log"), ("BENCHTABLE_LOG_LEVEL", "benchtable=trace")]
          sampleStore).stdout := by
  have henv : List.filter (·.1 ∉ levelVariables)
      [("RUST_LOG", "off"), ("BENCHTABLE_INPUT_PATH", "log")] =
        List.filter (·.1 ∉ levelVariables)
          [("BENCHTABLE_INPUT_PATH", "log"), ("BENCHTABLE_LOG_LEVEL", "benchtable=trace")] := by
    decide
  have hload : Settings.load sampleStore [("RUST_LOG", "off"), ("BENCHTABLE_INPUT_PATH", "log")] =
      .ok ⟨"log", "bench-summary.md", "warn"⟩ :=
    load_sampleStore fun key => by cases key <;> decide +kernel
  have hload' : Settings.load sampleStore
      [("BENCHTABLE_INPUT_PATH", "log"), ("BENCHTABLE_LOG_LEVEL", "benchtable=trace")] =
        .ok ⟨"log", "bench-summary.md", "benchtable=trace"⟩ :=
    load_sampleStore fun key => by cases key <;> decide +kernel
  exact ⟨henv, hload, hload',
    ((level_affects_stderr_only summary sampleStore).1 _ _ _ _ henv hload hload').2.1⟩

end Command

end TimingTable
