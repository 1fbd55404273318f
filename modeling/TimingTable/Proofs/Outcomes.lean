import TimingTable.Proofs.Messages
import TimingTable.Proofs.Runs
import TimingTable.Proofs.Settings

/-!
# Outcomes of commands

A command ends in one of three ways: its settings cannot be loaded, its report cannot be made, or there
is a report, possibly without a table. `Command.run` has one equation for each. In the first two ways
nothing is printed, the store is as it was, and the error stream ends with a line that says why; the
entry before it, where there is one, is the only error among the entries (`run_of_failsWith_of_asksFor`).
An entry cannot be taken for that last line, because of how its lines begin. `exit_contract` puts this
together.
-/

namespace TimingTable
open Text
variable {c : Command} {settings : Settings} {s : Store} {env : Environment} {table : Option String}
  {message : String} {level : Nat}

namespace Command

theorem report_eq (c : Command) (settings : Settings) (s : Store) :
    c.report settings s =
      (c.tableRun settings s).andThen fun table s => ⟨.ok (table.getD ""), [], s⟩ := by
  cases c with
  | output =>
    cases hread : s.readText settings.inputPath with
    | error fault =>
      rw [report, consoleRun_of_unread hread, tableRun_output_of_unread hread, Run.andThen_error]
    | ok log =>
      rw [report, consoleRun_of_read hread, tableRun_output_of_read hread, Run.andThen_ok,
        List.append_nil]
      rfl
  | summary => rfl

end Command

theorem severity_ne_error_of_mem_scanMessages {log : String} {m : Message}
    (h : m ∈ scanMessages log) : m.severity ≠ .error := by
  obtain ⟨finding, -, hm⟩ := List.mem_filterMap.1 h
  cases finding <;> cases hm <;> exact nofun

theorem severity_ne_error_of_mem_readMessages {path log : String} {m : Message}
    (h : m ∈ readMessages path log) : m.severity ≠ .error := by
  rw [readMessages, List.mem_append, List.mem_singleton] at h
  rcases h with h | rfl
  · exact severity_ne_error_of_mem_scanMessages h
  · exact nofun

namespace Command

/-- How a command goes with settings: it fails and leaves the store as it was, or it has no table or the
report of a log. None of its messages is an error. -/
theorem tableRun_ends (c : Command) (settings : Settings) (s : Store) :
    (∃ e messages, (∀ m ∈ messages, m.severity ≠ .error) ∧
      c.tableRun settings s = ⟨.error e, messages, s⟩) ∨
    ∃ log table messages t, (∀ m ∈ messages, m.severity ≠ .error) ∧
      (table = none ∨ table = some (Console.render (parse log))) ∧
      c.tableRun settings s = ⟨.ok table, messages, t⟩ := by
  have hread : ∀ log, ∀ m ∈ readMessages settings.inputPath log, m.severity ≠ .error :=
    fun _ _ => severity_ne_error_of_mem_readMessages
  cases c with
  | output =>
    cases h : s.readText settings.inputPath with
    | error fault => exact .inl ⟨_, _, by simp, tableRun_output_of_unread h⟩
    | ok log => exact .inr ⟨log, _, _, _, hread log, .inr rfl, tableRun_output_of_read h⟩
  | summary =>
    rcases summaryRun_cases settings s with ⟨_, h⟩ | ⟨log, _, h, hno⟩ | ⟨log, p, h, htakes⟩
    · exact .inl ⟨_, _, by simp, summaryRun_of_unread h⟩
    · exact .inl ⟨_, _, hread log, summaryRun_of_refuses h hno⟩
    · refine .inr ⟨log, _, _, _, fun m hm => ?_, ?_, summaryRun_of_takes h htakes⟩
      · rcases List.mem_append.1 hm with hm | hm
        · exact hread log m hm
        · obtain rfl := List.mem_singleton.1 hm
          exact nofun
      · split
        · exact .inl rfl
        · exact .inr rfl

theorem store_tableRun_of_error {e : ReportError} (h : (c.tableRun settings s).result = .error e) :
    (c.tableRun settings s).store = s := by
  rcases c.tableRun_ends settings s with ⟨e, messages, -, hrun⟩ | ⟨log, table, messages, t, -, -, hrun⟩
  · rw [hrun]
  · rw [hrun] at h
    cases h

theorem severity_ne_error_of_mem_messages {m : Message} (h : m ∈ (c.tableRun settings s).messages) :
    m.severity ≠ .error := by
  rcases c.tableRun_ends settings s with ⟨e, messages, hm, hrun⟩ | ⟨log, table, messages, t, hm, -, hrun⟩
  · exact hm m (by rwa [hrun] at h)
  · exact hm m (by rwa [hrun] at h)

theorem lineStarts_entries (messages : List Message) :
    LineStarts IsEntryStart (String.join (messages.map Message.entry)).toList := by
  have hjoin : (String.join (messages.map Message.entry)).toList =
      messages.flatMap fun m => m.entry.toList := by
    simp [List.flatMap_map]
  rw [hjoin]
  exact .flatMap fun m _ => m.lineStarts_entry.1

theorem not_error_prefix_of_mem_lines {line : List Char} {messages : List Message}
    (h : line ∈ lines (String.join (messages.map Message.entry)).toList) :
    ¬ "Error:".toList <+: line := by
  rintro ⟨rest, rfl⟩
  have hstart : IsEntryStart 'E' := (lineStarts_entries messages).of_mem_lines h 'E' rfl
  rcases hstart with h | h <;> exact absurd h (by decide)

theorem filter_failure (level : Nat) (message : String) :
    [Message.failure message].filter (·.severity.rank ≤ level) =
      if level = 0 then [] else [.failure message] := by
  have hrank : (Message.failure message).severity.rank = 1 := rfl
  rw [List.filter_singleton, hrank]
  by_cases h : level = 0
  · simp [h]
  · simp [h, Nat.one_le_iff_ne_zero]

/-- What says how much to tell sets nothing. -/
theorem settingName?_verbosityVariable : Layer.settingName? verbosityVariable = none := by
  decide +kernel

section
variable [Formats]

/-- What the error stream shows of some messages. -/
def shown (env : Environment) (s : Store) (messages : List Message) : String :=
  Verbosity.complaint (verbosityText env s) ++
    String.join ((messages.filter (verbosity env s).shows).map Message.entry)

theorem run_of_trace_error {messages : List Message} {t : Store}
    (h : c.trace env s = ⟨.error message, messages, t⟩) :
    c.run env s = ⟨1, "", shown env s messages ++ "Error: " ++ message ++ "\n", t⟩ := by
  -- opened as it stands: an equation for `run` would be found by looking into the loading of settings
  delta run shown
  rw [h]

theorem run_of_trace_ok {messages : List Message} {text : String} {t : Store}
    (h : c.trace env s = ⟨.ok text, messages, t⟩) :
    c.run env s = ⟨0, text, shown env s messages, t⟩ := by
  delta run shown
  rw [h]

theorem trace_of_load_error {e : SettingsError} (h : Settings.load s env = .error e) (c : Command) :
    c.trace env s = ⟨.error e.message, [.failure e.message], s⟩ := by
  delta trace
  rw [h]

theorem trace_of_report_error {e : ReportError} (hload : Settings.load s env = .ok settings)
    (h : (c.tableRun settings s).result = .error e) : c.trace env s = ⟨.error e.message,
      .settings settings :: (c.tableRun settings s).messages ++ [.failure e.message], s⟩ := by
  have hreport : c.report settings s = ⟨.error e, (c.tableRun settings s).messages, s⟩ := by
    rw [report_eq, Run.andThen, h]
    exact congrArg _ (store_tableRun_of_error h)
  delta trace
  simp only [hload, hreport]

theorem trace_of_report_ok (hload : Settings.load s env = .ok settings)
    (h : (c.tableRun settings s).result = .ok table) : c.trace env s = ⟨.ok (table.getD ""),
      .settings settings :: (c.tableRun settings s).messages, (c.tableRun settings s).store⟩ := by
  have hreport : c.report settings s =
      ⟨.ok (table.getD ""), (c.tableRun settings s).messages, (c.tableRun settings s).store⟩ := by
    rw [report_eq, Run.andThen, h]
    simp only [List.append_nil]
  delta trace
  simp only [hload, hreport]

theorem run_of_load_error {e : SettingsError} (h : Settings.load s env = .error e) (c : Command) :
    c.run env s =
      ⟨1, "", shown env s [.failure e.message] ++ "Error: " ++ e.message ++ "\n", s⟩ :=
  run_of_trace_error (trace_of_load_error h c)

theorem run_of_report_error {e : ReportError} (hload : Settings.load s env = .ok settings)
    (h : (c.tableRun settings s).result = .error e) :
    c.run env s = ⟨1, "", shown env s (.settings settings :: (c.tableRun settings s).messages ++
      [.failure e.message]) ++ "Error: " ++ e.message ++ "\n", s⟩ :=
  run_of_trace_error (trace_of_report_error hload h)

theorem run_of_report_ok (hload : Settings.load s env = .ok settings)
    (h : (c.tableRun settings s).result = .ok table) :
    c.run env s = ⟨0, table.getD "",
      shown env s (.settings settings :: (c.tableRun settings s).messages),
      (c.tableRun settings s).store⟩ :=
  run_of_trace_ok (trace_of_report_ok hload h)

/-- A command fails: its settings cannot be loaded, or its report cannot be made. -/
inductive FailsWith (c : Command) (env : Environment) (s : Store) : String → Prop
  | settings {e : SettingsError} (h : Settings.load s env = .error e) : FailsWith c env s e.message
  | report {settings : Settings} {e : ReportError} (hload : Settings.load s env = .ok settings)
      (h : (c.tableRun settings s).result = .error e) : FailsWith c env s e.message

/-- A command succeeds with a table, or without one where a summary has no rows. -/
def Succeeds (c : Command) (env : Environment) (s : Store) (table : Option String) : Prop :=
  ∃ settings, Settings.load s env = .ok settings ∧ (c.tableRun settings s).result = .ok table

theorem ends (c : Command) (env : Environment) (s : Store) :
    (∃ message, c.FailsWith env s message) ∨ ∃ table, c.Succeeds env s table := by
  cases hload : Settings.load s env with
  | error e => exact .inl ⟨_, .settings hload⟩
  | ok settings =>
    cases h : (c.tableRun settings s).result with
    | error e => exact .inl ⟨_, .report hload h⟩
    | ok table => exact .inr ⟨table, settings, hload, h⟩

theorem run_of_failsWith (h : c.FailsWith env s message) :
    ∃ before : List Message, (∀ m ∈ before, m.severity ≠ .error) ∧ c.run env s =
      ⟨1, "", shown env s (before ++ [.failure message]) ++ "Error: " ++ message ++ "\n", s⟩ := by
  cases h with
  | settings h => exact ⟨[], by simp, run_of_load_error h c⟩
  | report hload h =>
    refine ⟨_, fun m hm => ?_, run_of_report_error hload h⟩
    rcases List.mem_cons.1 hm with rfl | hm
    · exact nofun
    · exact severity_ne_error_of_mem_messages hm

theorem run_of_succeeds (h : c.Succeeds env s table) : ∃ (messages : List Message) (t : Store),
    c.run env s = ⟨0, table.getD "", shown env s messages, t⟩ := by
  obtain ⟨settings, hload, h⟩ := h
  exact ⟨_, _, run_of_report_ok hload h⟩

/-- With a level word there is no complaint, and what is shown are the entries up to the level. -/
theorem shown_of_asksFor (h : Verbosity.AsksFor level (verbosityText env s)) (messages : List Message) :
    shown env s messages =
      String.join ((messages.filter (·.severity.rank ≤ level)).map Message.entry) := by
  have hshows : messages.filter (verbosity env s).shows = messages.filter (·.severity.rank ≤ level) :=
    List.filter_congr fun m _ => by
      rw [Bool.eq_iff_iff, decide_eq_true_iff]
      exact Verbosity.shows_read_iff h m
  rw [shown, Verbosity.complaint_eq_empty h, hshows, String.empty_append]

theorem run_of_failsWith_of_asksFor (hlevel : Verbosity.AsksFor level (verbosityText env s))
    (h : c.FailsWith env s message) :
    ∃ before : List Message, (∀ m ∈ before, m.severity ≠ .error ∧ m.severity.rank ≤ level) ∧
      c.run env s = ⟨1, "", String.join (before.map Message.entry) ++
        (if level = 0 then "" else (Message.failure message).entry) ++ "Error: " ++ message ++ "\n",
        s⟩ := by
  obtain ⟨before, hbefore, hrun⟩ := run_of_failsWith h
  refine ⟨before.filter (·.severity.rank ≤ level), fun m hm => ?_, ?_⟩
  · obtain ⟨hm, hrank⟩ := List.mem_filter.1 hm
    exact ⟨hbefore m hm, of_decide_eq_true hrank⟩
  · have hlast : String.join ((if level = 0 then [] else [Message.failure message]).map
        Message.entry) = if level = 0 then "" else (Message.failure message).entry := by
      split <;> simp
    rw [hrun, shown_of_asksFor hlevel, List.filter_append, filter_failure, List.map_append,
      String.join_append, hlast]

theorem run_of_succeeds_of_asksFor (hlevel : Verbosity.AsksFor level (verbosityText env s))
    (h : c.Succeeds env s table) : (c.run env s).exitCode = 0 ∧
      (c.run env s).stdout = table.getD "" ∧
      ∀ line ∈ lines (c.run env s).stderr.toList, ¬ "Error:".toList <+: line := by
  obtain ⟨messages, t, hrun⟩ := run_of_succeeds h
  rw [hrun, shown_of_asksFor hlevel]
  exact ⟨rfl, rfl, fun line hline => not_error_prefix_of_mem_lines hline⟩

theorem level_of_load_error {e : SettingsError}
    (hlevel : Verbosity.AsksFor level (verbosityText env s)) (hload : Settings.load s env = .error e)
    (hunset : env.lookup verbosityVariable = none) : level = Severity.warn.rank := by
  have htext : verbosityText env s = "warn" := by
    rw [verbosityText, hunset, hload]
    rfl
  have hdefault : Verbosity.AsksFor Severity.warn.rank "warn" :=
    ⟨"warn", Verbosity.level?_warn, .inl rfl⟩
  rw [htext] at hlevel
  rw [← Verbosity.level_read hlevel, Verbosity.level_read hdefault]

/-- Where the error stream is told to show some level, a command ends with 0 just where its settings
are loaded and there is a report, and then it prints the report and no line that begins as the last
line of a failure does. Otherwise it ends with 1, prints nothing, changes nothing, and says why. -/
theorem exit_contract (c : Command) (env : Environment) (s : Store) (level : Nat)
    (hlevel : Verbosity.AsksFor level (verbosityText env s)) :
    ((c.run env s).exitCode = 0 ∨ (c.run env s).exitCode = 1) ∧
    ((c.run env s).exitCode = 0 ↔ ∃ table, c.Succeeds env s table) ∧
    ((c.run env s).exitCode = 1 → (c.run env s).stdout = "" ∧ (c.run env s).store = s ∧
      ∃ (message : String) (before : List Message), c.FailsWith env s message ∧
        (∀ m ∈ before, m.severity ≠ .error ∧ m.severity.rank ≤ level) ∧
        (c.run env s).stderr = String.join (before.map Message.entry) ++
          (if level = 0 then "" else (Message.failure message).entry) ++
            "Error: " ++ message ++ "\n") ∧
    ((c.run env s).exitCode = 0 →
      (∀ line ∈ lines (c.run env s).stderr.toList, ¬ "Error:".toList <+: line) ∧
      ∃ table, c.Succeeds env s table ∧ (c.run env s).stdout = table.getD "") ∧
    (∀ e, Settings.load s env = .error e → env.lookup verbosityVariable = none →
      level = Severity.warn.rank) := by
  have hlast : ∀ e, Settings.load s env = .error e → env.lookup verbosityVariable = none →
      level = Severity.warn.rank := fun _ hload hunset => level_of_load_error hlevel hload hunset
  rcases c.ends env s with ⟨message, h⟩ | ⟨table, h⟩
  · obtain ⟨before, hbefore, hrun⟩ := run_of_failsWith_of_asksFor hlevel h
    have hnot : ¬ ∃ table, c.Succeeds env s table := by
      rintro ⟨table, hs⟩
      have hzero := (run_of_succeeds_of_asksFor hlevel hs).1
      rw [hrun] at hzero
      cases hzero
    rw [hrun]
    exact ⟨.inr rfl, ⟨nofun, fun hs => absurd hs hnot⟩,
      fun _ => ⟨rfl, rfl, message, before, h, hbefore, rfl⟩, nofun, hlast⟩
  · obtain ⟨hexit, hprinted, hlines⟩ := run_of_succeeds_of_asksFor hlevel h
    refine ⟨.inl hexit, ⟨fun _ => ⟨table, h⟩, fun _ => hexit⟩, fun hone => ?_,
      fun _ => ⟨hlines, table, h, hprinted⟩, hlast⟩
    rw [hexit] at hone
    cases hone

theorem load_sampleStore
    (h : ∀ key, (Settings.given {} (.ofEnvironment env) key).text? = some (settings.get key)) :
    Settings.load sampleStore env = .ok settings :=
  Settings.load_eq_ok_iff.2 ⟨{}, rfl, h⟩

end

/-- Without a log where the settings look for it, nothing is shown at all but why; with the log there is
a report. -/
theorem exit_contract_sample :
    (Verbosity.AsksFor 0 (verbosityText [("RUST_LOG", "off")] sampleStore) ∧
      (summary.run [("RUST_LOG", "off")] sampleStore).exitCode = 1 ∧
      (summary.run [("RUST_LOG", "off")] sampleStore).store = sampleStore) ∧
    Verbosity.AsksFor Severity.warn.rank
        (verbosityText [("BENCHTABLE_INPUT_PATH", "log")] sampleStore) ∧
      (output.run [("BENCHTABLE_INPUT_PATH", "log")] sampleStore).exitCode = 0 := by
  have hoff : Verbosity.AsksFor 0 (verbosityText [("RUST_LOG", "off")] sampleStore) :=
    ⟨"off", by decide +kernel, .inl rfl⟩
  have hmissing : Settings.load sampleStore [("RUST_LOG", "off")] = .ok {} :=
    load_sampleStore fun key => by cases key <;> decide +kernel
  have hload : Settings.load sampleStore [("BENCHTABLE_INPUT_PATH", "log")] =
      .ok ⟨"log", "bench-summary.md", "warn"⟩ :=
    load_sampleStore fun key => by cases key <;> decide +kernel
  have hwarn : Verbosity.AsksFor Severity.warn.rank
      (verbosityText [("BENCHTABLE_INPUT_PATH", "log")] sampleStore) := by
    have hunset : List.lookup verbosityVariable [("BENCHTABLE_INPUT_PATH", "log")] = none := by decide
    refine ⟨"warn", Verbosity.level?_warn, .inl ?_⟩
    rw [verbosityText, hunset, hload]
  refine ⟨⟨hoff, ?_⟩, hwarn, ?_⟩
  · obtain ⟨hcode, hzero, hone, -⟩ := exit_contract summary _ sampleStore 0 hoff
    have hcode : (summary.run [("RUST_LOG", "off")] sampleStore).exitCode = 1 := by
      refine hcode.resolve_left fun h => ?_
      obtain ⟨table, settings, hsettings, htable⟩ := hzero.1 h
      obtain rfl : {} = settings := Except.ok.inj (hmissing.symm.trans hsettings)
      have hresult : (summary.tableRun {} sampleStore).result =
          .error (.missingLog "bench-output.log") := rfl
      rw [hresult] at htable
      cases htable
    exact ⟨hcode, (hone hcode).2.1⟩
  · have hread : sampleStore.readText (Settings.inputPath ⟨"log", "bench-summary.md", "warn"⟩) =
        .ok "Runtime Min\n| go | 1 | 5 | 3 |\n" := readText_sampleStore
    have hresult : ∃ table, (output.tableRun ⟨"log", "bench-summary.md", "warn"⟩ sampleStore).result =
        .ok table := by
      rw [tableRun_output_of_read hread]
      exact ⟨_, rfl⟩
    obtain ⟨table, htable⟩ := hresult
    obtain ⟨-, hzero, -⟩ := exit_contract output _ sampleStore _ hwarn
    exact hzero.2 ⟨table, _, hload, htable⟩

end Command

end TimingTable
