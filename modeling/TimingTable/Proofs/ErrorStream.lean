import TimingTable.Proofs.Outcomes

/-!
# The error stream of a command

A command can go in five ways (`Course`): its settings cannot be loaded, its log cannot be read, it
prints the report, or its summary cannot be written or is written. Each way has its messages, and which
way it goes does not depend on how much is to be told (`trace_of_sameButVerbosity`). What is to be told
then only chooses among the messages: the error stream shows those of the level and graver ones, and
after them the last line of a failure (`stderr_run`). Since a success has no error to tell and no
message is a warning, it shows nothing up to the level of warnings.
-/

namespace TimingTable
open Text
variable {c : Command} {settings : Settings} {s t : Store} {env env' : Environment} {tr : Trace}
  {message text path log : String} {level : Nat} {fault : Fault} {content : ByteArray}

theorem Store.write_eq_ok_iff :
    s.write path content = .ok t ↔ ∃ p, s.Takes path p ∧ s.put p (.file content) = t := by
  rw [write, except_bind_eq_ok]
  simp only [target_eq_ok_iff, pure, Except.pure, Except.ok.injEq]

theorem Store.write_eq_error_iff : s.write path content = .error fault ↔ s.Refuses path fault := by
  rw [write, except_bind_eq_error, target_eq_error_iff]
  simp [pure, Except.pure]

/-- A message that is no error is no warning either. -/
theorem Message.rank_of_severity_ne_error {m : Message} (h : m.severity ≠ .error) :
    Severity.warn.rank < m.severity.rank := by
  cases m with
  | failure _ => exact absurd rfl h
  | headerOn _ | closedOn _ | skipped _ _ | parsed _ _ | written _ | settings _ =>
    simp [severity, Severity.rank]

/-- What stands on the error stream after all messages: why a command fails. -/
def Trace.lastLine (tr : Trace) : String :=
  match tr.outcome with
  | .ok _ => ""
  | .error message => "Error: " ++ message ++ "\n"

namespace Command

theorem tableRun_of_unread (h : s.readText settings.inputPath = .error fault) (c : Command) :
    c.tableRun settings s = ⟨.error (.ofRead settings.inputPath fault), [], s⟩ := by
  cases c with
  | output => exact tableRun_output_of_unread h
  | summary => exact summaryRun_of_unread h

/-- Two environments that are the same but for what they say about how much to tell. -/
def SameButVerbosity (env env' : Environment) : Prop :=
  env.filter (·.1 ≠ verbosityVariable) = env'.filter (·.1 ≠ verbosityVariable)

section
variable [Formats]

/-- The ways in which a command can go, with all that it can tell. -/
inductive Course (c : Command) (env : Environment) (s : Store) : Trace → Prop
  /-- The settings cannot be loaded. -/
  | unloaded {e : SettingsError} (hload : Settings.load s env = .error e) :
    Course c env s ⟨.error e.message, [.failure e.message], s⟩
  /-- The log cannot be read. -/
  | unread {settings : Settings} {fault : Fault} (hload : Settings.load s env = .ok settings)
      (hread : s.readText settings.inputPath = .error fault) :
    Course c env s ⟨.error (ReportError.ofRead settings.inputPath fault).message,
      [.settings settings, .failure (ReportError.ofRead settings.inputPath fault).message], s⟩
  /-- The report is printed. -/
  | printed {settings : Settings} {log : String} (hc : c = output)
      (hload : Settings.load s env = .ok settings) (hread : s.readText settings.inputPath = .ok log) :
    Course c env s ⟨.ok (Console.render (parse log)),
      .settings settings :: (scanMessages log ++ [.parsed (parse log).length settings.inputPath]), s⟩
  /-- The summary cannot be written. -/
  | unwritten {settings : Settings} {log : String} {fault : Fault} (hc : c = summary)
      (hload : Settings.load s env = .ok settings) (hread : s.readText settings.inputPath = .ok log)
      (hwrite : s.write settings.summaryPath (Markdown.render (parse log)).toUTF8 = .error fault) :
    Course c env s ⟨.error (ReportError.unwritable settings.summaryPath fault).message,
      .settings settings :: (scanMessages log ++ [.parsed (parse log).length settings.inputPath,
        .failure (ReportError.unwritable settings.summaryPath fault).message]), s⟩
  /-- The summary is written, and the report printed where there are rows. -/
  | written {settings : Settings} {log : String} {t : Store} (hc : c = summary)
      (hload : Settings.load s env = .ok settings) (hread : s.readText settings.inputPath = .ok log)
      (hwrite : s.write settings.summaryPath (Markdown.render (parse log)).toUTF8 = .ok t) :
    Course c env s ⟨.ok (if parse log = [] then "" else Console.render (parse log)),
      .settings settings :: (scanMessages log ++ [.parsed (parse log).length settings.inputPath,
        .written settings.summaryPath]), t⟩

theorem trace_of_course (h : c.Course env s tr) : c.trace env s = tr := by
  cases h with
  | unloaded hload => exact trace_of_load_error hload c
  | unread hload hread =>
    have hrun := tableRun_of_unread hread c
    rw [trace_of_report_error hload (by rw [hrun]), hrun]
    rfl
  | printed hc hload hread =>
    subst hc
    have hrun := tableRun_output_of_read hread
    rw [trace_of_report_ok hload (by rw [hrun]), hrun]
    rfl
  | unwritten hc hload hread hwrite =>
    subst hc
    have hrun := summaryRun_of_refuses hread (Store.write_eq_error_iff.1 hwrite)
    rw [trace_of_report_error hload (by rw [tableRun, hrun]), tableRun, hrun]
    simp [readMessages]
  | written hc hload hread hwrite =>
    subst hc
    obtain ⟨p, htakes, rfl⟩ := Store.write_eq_ok_iff.1 hwrite
    have hrun := summaryRun_of_takes hread htakes
    rw [trace_of_report_ok hload (by rw [tableRun, hrun]), tableRun, hrun]
    split <;> simp [readMessages]

theorem exists_course (c : Command) (env : Environment) (s : Store) : ∃ tr, c.Course env s tr := by
  cases hload : Settings.load s env with
  | error e => exact ⟨_, .unloaded hload⟩
  | ok settings =>
    cases hread : s.readText settings.inputPath with
    | error fault => exact ⟨_, .unread hload hread⟩
    | ok log =>
      cases c with
      | output => exact ⟨_, .printed rfl hload hread⟩
      | summary =>
        cases hwrite : s.write settings.summaryPath (Markdown.render (parse log)).toUTF8 with
        | error fault => exact ⟨_, .unwritten rfl hload hread hwrite⟩
        | ok t => exact ⟨_, .written rfl hload hread hwrite⟩

theorem course_iff : c.Course env s tr ↔ c.trace env s = tr := by
  refine ⟨trace_of_course, ?_⟩
  rintro rfl
  obtain ⟨tr, h⟩ := c.exists_course env s
  exact (trace_of_course h).symm ▸ h

theorem load_of_sameButVerbosity (h : SameButVerbosity env env') (s : Store) :
    Settings.load s env = Settings.load s env' := by
  have hnone : ∀ e : String × String, decide (e.1 ≠ verbosityVariable) = false →
      Layer.settingName? e.1 = none := fun e he => by
    have hname : e.1 = verbosityVariable := by simpa using he
    rw [hname, settingName?_verbosityVariable]
  apply Settings.load_congr
  rw [← Layer.ofEnvironment_filter hnone env, h, Layer.ofEnvironment_filter hnone env']

theorem trace_of_sameButVerbosity (h : SameButVerbosity env env') (c : Command) (s : Store) :
    c.trace env s = c.trace env' s := by
  delta trace
  rw [load_of_sameButVerbosity h s]

/-- The text that says how much a command tells: the one in the environment, else the one in the
settings, else the default. -/
inductive VerbosityText (env : Environment) (s : Store) : String → Prop
  | ofVariable {text : String} (h : env.lookup verbosityVariable = some text) :
    VerbosityText env s text
  | ofSettings {settings : Settings} (h : env.lookup verbosityVariable = none)
      (hload : Settings.load s env = .ok settings) : VerbosityText env s settings.logLevel
  | byDefault {e : SettingsError} (h : env.lookup verbosityVariable = none)
      (hload : Settings.load s env = .error e) : VerbosityText env s "warn"

theorem verbosityText_eq (h : VerbosityText env s text) : verbosityText env s = text := by
  rw [verbosityText]
  cases h with
  | ofVariable h => rw [h]
  | ofSettings h hload => rw [h, hload]
  | byDefault h hload => rw [h, hload]; rfl

/-- Of a command that goes in some way, the error stream shows the messages up to the level and the
last line. -/
theorem stderr_run (h : c.trace env s = tr) (hlevel : Verbosity.AsksFor level (verbosityText env s)) :
    (c.run env s).stderr =
      String.join ((tr.messages.filter (·.severity.rank ≤ level)).map Message.entry) ++ tr.lastLine := by
  rw [← shown_of_asksFor hlevel]
  obtain ⟨outcome, messages, t⟩ := tr
  cases outcome with
  | error message => simp [run_of_trace_error h, Trace.lastLine, String.append_assoc]
  | ok text => simp [run_of_trace_ok h, Trace.lastLine]

theorem severity_ne_error_of_course {m : Message} (h : c.Course env s tr) (hok : tr.outcome = .ok text)
    (hm : m ∈ tr.messages) : m.severity ≠ .error := by
  cases h with
  | unloaded _ | unread _ _ | unwritten _ _ _ _ => cases hok
  | printed hc hload hread =>
    simp only [List.mem_cons, List.mem_append, List.not_mem_nil, or_false] at hm
    rcases hm with rfl | hm | rfl
    · exact nofun
    · exact severity_ne_error_of_mem_scanMessages hm
    · exact nofun
  | written hc hload hread hwrite =>
    simp only [List.mem_cons, List.mem_append, List.not_mem_nil, or_false] at hm
    rcases hm with rfl | hm | rfl | rfl
    · exact nofun
    · exact severity_ne_error_of_mem_scanMessages hm
    · exact nofun
    · exact nofun

theorem exists_outcome_of_exitCode (h : c.trace env s = tr) (hexit : (c.run env s).exitCode = 0) :
    ∃ text, tr.outcome = .ok text := by
  obtain ⟨outcome, messages, t⟩ := tr
  cases outcome with
  | error message =>
    rw [run_of_trace_error h] at hexit
    cases hexit
  | ok text => exact ⟨text, rfl⟩

/-- A success shows nothing up to the level of warnings. -/
theorem stderr_eq_empty (h : c.Course env s tr) (hlevel : Verbosity.AsksFor level (verbosityText env s))
    (hexit : (c.run env s).exitCode = 0) (hle : level ≤ Severity.warn.rank) :
    (c.run env s).stderr = "" := by
  have htrace := trace_of_course h
  obtain ⟨text, hok⟩ := exists_outcome_of_exitCode htrace hexit
  have hnone : tr.messages.filter (·.severity.rank ≤ level) = [] := by
    refine List.filter_eq_nil_iff.2 fun m hm => ?_
    have hrank := Message.rank_of_severity_ne_error (severity_ne_error_of_course h hok hm)
    rw [decide_eq_true_iff]
    omega
  rw [stderr_run htrace hlevel, hnone, Trace.lastLine, hok]
  rfl

/-- How a command goes, and so all that it can tell, does not depend on how much it is to tell. Of its
messages the error stream shows those of the level and graver ones, in the same order, and then why the
command fails, if it does. So a higher level shows what a lower one shows and more in between, and a
success shows nothing up to the level of warnings. -/
theorem stderr_shows_level_of_course (c : Command) (env : Environment) (s : Store) :
    ∃ tr, c.Course env s tr ∧ ∀ env' text level, SameButVerbosity env env' →
      VerbosityText env' s text → Verbosity.AsksFor level text →
      c.Course env' s tr ∧
      (c.run env' s).stderr = String.join
        ((tr.messages.filter (·.severity.rank ≤ level)).map Message.entry) ++ tr.lastLine ∧
      (∀ higher, level ≤ higher → (tr.messages.filter (·.severity.rank ≤ level)).Sublist
        (tr.messages.filter (·.severity.rank ≤ higher))) ∧
      ((c.run env' s).exitCode = 0 → level ≤ Severity.warn.rank → (c.run env' s).stderr = "") := by
  obtain ⟨tr, h⟩ := c.exists_course env s
  refine ⟨tr, h, fun env' text level henv htext hlevel => ?_⟩
  have htrace : c.trace env' s = tr := by
    rw [← trace_of_sameButVerbosity henv, trace_of_course h]
  have h' : c.Course env' s tr := course_iff.2 htrace
  rw [← verbosityText_eq htext] at hlevel
  refine ⟨h', stderr_run htrace hlevel, fun higher hle => ?_, stderr_eq_empty h' hlevel⟩
  refine List.monotone_filter_right _ fun m hm => ?_
  rw [decide_eq_true_iff] at hm ⊢
  exact Nat.le_trans hm hle

end

/-- With the level of information, a summary tells what it has read and what it has written. -/
theorem stderr_shows_level_of_course_sample :
    SameButVerbosity [("BENCHTABLE_INPUT_PATH", "log")]
        [("BENCHTABLE_INPUT_PATH", "log"), ("RUST_LOG", "info")] ∧
      VerbosityText [("BENCHTABLE_INPUT_PATH", "log"), ("RUST_LOG", "info")] sampleStore "info" ∧
      Verbosity.AsksFor Severity.info.rank "info" ∧
      (summary.run [("BENCHTABLE_INPUT_PATH", "log"), ("RUST_LOG", "info")] sampleStore).stderr =
        (Message.parsed 1 "log").entry ++ (Message.written "bench-summary.md").entry := by
  have henv : SameButVerbosity [("BENCHTABLE_INPUT_PATH", "log")]
      [("BENCHTABLE_INPUT_PATH", "log"), ("RUST_LOG", "info")] := by
    rw [SameButVerbosity]
    decide
  have htext : VerbosityText [("BENCHTABLE_INPUT_PATH", "log"), ("RUST_LOG", "info")] sampleStore
      "info" := .ofVariable rfl
  have hword : "info".toLower = "info" := by decide +kernel
  have hinfo : Severity.info.word.toLower = "info" := by decide +kernel
  have hlevel : Verbosity.AsksFor Severity.info.rank "info" :=
    ⟨"info", Verbosity.level?_eq_some_rank hword hinfo, .inl rfl⟩
  refine ⟨henv, htext, hlevel, ?_⟩
  obtain ⟨tr, hcourse, h⟩ :=
    stderr_shows_level_of_course summary [("BENCHTABLE_INPUT_PATH", "log")] sampleStore
  have hload : Settings.load sampleStore [("BENCHTABLE_INPUT_PATH", "log")] =
      .ok ⟨"log", "bench-summary.md", "warn"⟩ :=
    load_sampleStore fun key => by cases key <;> decide +kernel
  have htakes : sampleStore.Takes "bench-summary.md" ["w", "bench-summary.md"] :=
    Store.target_eq_ok_iff.1 rfl
  have hwritten := Course.written rfl hload readText_sampleStore
    (Store.write_eq_ok_iff.2 ⟨_, htakes, rfl⟩)
  have htr := (trace_of_course hcourse).symm.trans (trace_of_course hwritten)
  have hmessages : scanMessages "Runtime Min\n| go | 1 | 5 | 3 |\n" = [.headerOn 1] := by
    decide +kernel
  rw [(h _ _ _ henv htext hlevel).2.1, htr, hmessages, parse_sample]
  simp [Message.severity, Severity.rank, Trace.lastLine]

end Command

end TimingTable
