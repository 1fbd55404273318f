import TimingTable.Command
import TimingTable.Proofs.Store.Write

/-!
# Runs over a store

A run first reads its log, and where that fails it is over (`consoleRun_of_unread`,
`summaryRun_of_unread`). After that a console run cannot fail, and a summary run fails only where no
file can be written at its path (`summaryRun_of_refuses`); otherwise it leaves the store with one file
put into it (`summaryRun_of_takes`). So a failed run leaves the store as it was, and a summary is
written as a whole or not at all (`summaryRun_all_or_nothing`).
-/

namespace TimingTable
variable {settings : Settings} {s : Store} {p : Place} {path log : String} {fault : Fault}

/-- The messages about a log that was read. -/
def readMessages (path log : String) : List Message :=
  scanMessages log ++ [.parsed (parse log).length path]

namespace Run
variable {α β : Type} {next : α → Store → Run β}

theorem andThen_error (e : ReportError) (messages : List Message) (s : Store) :
    (⟨.error e, messages, s⟩ : Run α).andThen next = ⟨.error e, messages, s⟩ := rfl

theorem andThen_ok (a : α) (messages : List Message) (s : Store) :
    (⟨.ok a, messages, s⟩ : Run α).andThen next =
      ⟨(next a s).result, messages ++ (next a s).messages, (next a s).store⟩ := rfl

end Run

theorem loadRun_of_unread (h : s.readText path = .error fault) :
    loadRun path s = ⟨.error (.ofRead path fault), [], s⟩ := by
  simp only [loadRun, h]

theorem loadRun_of_read (h : s.readText path = .ok log) :
    loadRun path s = ⟨.ok (parse log), readMessages path log, s⟩ := by
  simp only [loadRun, h]
  rfl

theorem consoleRun_of_unread (h : s.readText settings.inputPath = .error fault) :
    consoleRun settings s = ⟨.error (.ofRead settings.inputPath fault), [], s⟩ := by
  rw [consoleRun, loadRun_of_unread h, Run.andThen_error]

theorem consoleRun_of_read (h : s.readText settings.inputPath = .ok log) :
    consoleRun settings s =
      ⟨.ok (Console.render (parse log)), readMessages settings.inputPath log, s⟩ := by
  rw [consoleRun, loadRun_of_read h, Run.andThen_ok, List.append_nil]

theorem summaryRun_of_unread (h : s.readText settings.inputPath = .error fault) :
    summaryRun settings s = ⟨.error (.ofRead settings.inputPath fault), [], s⟩ := by
  rw [summaryRun, loadRun_of_unread h, Run.andThen_error]

theorem writeRun_of_refuses (h : s.Refuses path fault) (rows : List Row) :
    writeRun path rows s = ⟨.error (.unwritable path fault), [], s⟩ := by
  have htarget : s.target path = .error fault := Store.target_eq_error_iff.2 h
  simp only [writeRun, Store.write, htarget, bind, Except.bind]

theorem writeRun_of_takes (h : s.Takes path p) (rows : List Row) :
    writeRun path rows s =
      ⟨.ok (), [.written path], s.put p (.file (Markdown.render rows).toUTF8)⟩ := by
  have htarget : s.target path = .ok p := Store.target_eq_ok_iff.2 h
  simp only [writeRun, Store.write, htarget, bind, Except.bind, pure, Except.pure]

theorem summaryRun_of_refuses (hread : s.readText settings.inputPath = .ok log)
    (h : s.Refuses settings.summaryPath fault) :
    summaryRun settings s = ⟨.error (.unwritable settings.summaryPath fault),
      readMessages settings.inputPath log, s⟩ := by
  rw [summaryRun, loadRun_of_read hread, Run.andThen_ok, writeRun_of_refuses h, Run.andThen_error,
    List.append_nil]

theorem summaryRun_of_takes (hread : s.readText settings.inputPath = .ok log)
    (h : s.Takes settings.summaryPath p) :
    summaryRun settings s =
      ⟨.ok (if parse log = [] then none else some (Console.render (parse log))),
        readMessages settings.inputPath log ++ [.written settings.summaryPath],
        s.put p (.file (Markdown.render (parse log)).toUTF8)⟩ := by
  rw [summaryRun, loadRun_of_read hread, Run.andThen_ok, writeRun_of_takes h, Run.andThen_ok,
    List.append_nil]

/-- How a summary run can go. -/
theorem summaryRun_cases (settings : Settings) (s : Store) :
    (∃ fault, s.readText settings.inputPath = .error fault) ∨
    (∃ log fault, s.readText settings.inputPath = .ok log ∧ s.Refuses settings.summaryPath fault) ∨
    ∃ log p, s.readText settings.inputPath = .ok log ∧ s.Takes settings.summaryPath p := by
  cases hread : s.readText settings.inputPath with
  | error fault => exact .inl ⟨fault, rfl⟩
  | ok log =>
    cases htarget : s.target settings.summaryPath with
    | error fault => exact .inr (.inl ⟨log, fault, rfl, Store.target_eq_error_iff.1 htarget⟩)
    | ok p => exact .inr (.inr ⟨log, p, rfl, Store.target_eq_ok_iff.1 htarget⟩)

/-- The run behind a command, with the table that it has to show; a summary without rows has none. -/
def Command.tableRun : Command → Settings → Store → Run (Option String)
  | output, settings, s => (consoleRun settings s).andThen fun table s => ⟨.ok (some table), [], s⟩
  | summary, settings, s => summaryRun settings s

namespace Command

theorem tableRun_output_of_unread (h : s.readText settings.inputPath = .error fault) :
    output.tableRun settings s = ⟨.error (.ofRead settings.inputPath fault), [], s⟩ := by
  rw [tableRun, consoleRun_of_unread h, Run.andThen_error]

theorem tableRun_output_of_read (h : s.readText settings.inputPath = .ok log) :
    output.tableRun settings s =
      ⟨.ok (some (Console.render (parse log))), readMessages settings.inputPath log, s⟩ := by
  rw [tableRun, consoleRun_of_read h, Run.andThen_ok, List.append_nil]

theorem store_tableRun_output (settings : Settings) (s : Store) :
    (output.tableRun settings s).store = s := by
  cases hread : s.readText settings.inputPath with
  | error fault => rw [tableRun_output_of_unread hread]
  | ok log => rw [tableRun_output_of_read hread]

end Command

/-- A summary run does all of its work or none of it. It fails as the reading of the log fails, and
where the path for the summary refuses it; otherwise the file there is the markdown report and nothing
else, and every other place is as it was. -/
theorem summaryRun_all_or_nothing (settings : Settings) (s : Store) :
    (∀ e, (loadRun settings.inputPath s).result = .error e →
      (summaryRun settings s).result = .error e ∧ (summaryRun settings s).store = s) ∧
    (∀ log fault, s.readText settings.inputPath = .ok log → s.Refuses settings.summaryPath fault →
      (summaryRun settings s).result = .error (.unwritable settings.summaryPath fault) ∧
        (summaryRun settings s).store = s) ∧
    ∀ log, s.readText settings.inputPath = .ok log →
      (∀ fault, ¬ s.Refuses settings.summaryPath fault) →
      (summaryRun settings s).result =
        .ok (if parse log = [] then none else some (Console.render (parse log))) ∧
      (summaryRun settings s).store.readBytes settings.summaryPath =
        .ok (Markdown.render (parse log)).toUTF8 ∧
      (∃ p, s.Takes settings.summaryPath p ∧ Store.SameBut p s (summaryRun settings s).store) ∧
      (¬ s.SameFile settings.inputPath settings.summaryPath →
        (summaryRun settings s).store.readText settings.inputPath = .ok log) := by
  refine ⟨fun e he => ?_, fun log fault hread h => ?_, fun log hread hnone => ?_⟩
  · cases hread : s.readText settings.inputPath with
    | error fault =>
      rw [loadRun_of_unread hread] at he
      cases he
      rw [summaryRun_of_unread hread]
      exact ⟨rfl, rfl⟩
    | ok log =>
      rw [loadRun_of_read hread] at he
      cases he
  · rw [summaryRun_of_refuses hread h]
    exact ⟨rfl, rfl⟩
  · rcases summaryRun_cases settings s with ⟨fault, h⟩ | ⟨_, fault, -, h⟩ | ⟨_, p, -, htakes⟩
    · rw [hread] at h
      cases h
    · exact absurd h (hnone fault)
    · rw [summaryRun_of_takes hread htakes]
      exact ⟨rfl, htakes.readBytes_put_file, ⟨p, htakes, htakes.sameBut_put_file⟩,
        fun hne => htakes.readText_put_file_of_ne hne hread⟩

/-- A working directory with a log and with an older summary, longer than the next one. -/
def sampleStore : Store :=
  .ofTexts [("log", "Runtime Min\n| go | 1 | 5 | 3 |\n"), ("old.md", "".pushn '-' 200)]

theorem readText_sampleStore : sampleStore.readText "log" = .ok "Runtime Min\n| go | 1 | 5 | 3 |\n" :=
  rfl

theorem takes_sampleStore : sampleStore.Takes "old.md" ["w", "old.md"] :=
  Store.target_eq_ok_iff.1 rfl

theorem parse_sample : parse "Runtime Min\n| go | 1 | 5 | 3 |\n" = [⟨"go", "1", "5", "3"⟩] := by
  decide +kernel

/-- The older summary is replaced as a whole, below a file there is no place for a summary, and
without a log nothing is written. -/
theorem summaryRun_all_or_nothing_sample :
    ((∀ fault, ¬ sampleStore.Refuses "old.md" fault) ∧
      (summaryRun ⟨"log", "old.md", "warn"⟩ sampleStore).store.readBytes "old.md" =
        .ok (Markdown.render [⟨"go", "1", "5", "3"⟩]).toUTF8) ∧
    (sampleStore.Refuses "log/new.md" .notDirectory ∧
      (summaryRun ⟨"log", "log/new.md", "warn"⟩ sampleStore).result =
        .error (.unwritable "log/new.md" .notDirectory)) ∧
    ((loadRun "late" sampleStore).result = .error (.missingLog "late") ∧
      (summaryRun ⟨"late", "old.md", "warn"⟩ sampleStore).store = sampleStore) := by
  have hnone : ∀ fault, ¬ sampleStore.Refuses "old.md" fault := fun _ => takes_sampleStore.not_refuses
  have hrefuses : sampleStore.Refuses "log/new.md" .notDirectory := Store.target_eq_error_iff.1 rfl
  have hload : (loadRun "late" sampleStore).result = .error (.missingLog "late") := rfl
  refine ⟨⟨hnone, ?_⟩, ⟨hrefuses, ?_⟩, ⟨hload, ?_⟩⟩
  · rw [← parse_sample]
    exact ((summaryRun_all_or_nothing ⟨"log", "old.md", "warn"⟩ sampleStore).2.2 _
      readText_sampleStore hnone).2.1
  · exact ((summaryRun_all_or_nothing ⟨"log", "log/new.md", "warn"⟩ sampleStore).2.1 _ _
      readText_sampleStore hrefuses).1
  · exact ((summaryRun_all_or_nothing ⟨"late", "old.md", "warn"⟩ sampleStore).1 _ hload).2

end TimingTable
