import TimingTable.Proofs.Rounds
import TimingTable.Proofs.Runs

/-!
# Agreement of the two runs

The two runs read the same log, but a table without rows they tell in two ways: the console run says
so in a line, and the summary run shows nothing. That line is the report of no rows and of nothing
else (`Console.render_eq_noResults_iff`), so it stands for the missing table. What a summary run gives
is then what the console run gives, unless the summary cannot be written (`result_summaryRun`), and
`summaryRun_agrees` follows case by case.
-/

namespace TimingTable
variable {settings : Settings} {s : Store}

/-- A summary run gives what the console run gives, where it can write the summary. -/
theorem result_summaryRun (settings : Settings) (s : Store) :
    (summaryRun settings s).result = (consoleRun settings s).result >>= fun text =>
      match s.target settings.summaryPath with
      | .error fault => .error (.unwritable settings.summaryPath fault)
      | .ok _ => .ok (if text = "No benchmark results found\n" then none else some text) := by
  rcases summaryRun_cases settings s with ⟨fault, hread⟩ | ⟨log, fault, hread, h⟩ | ⟨log, p, hread, h⟩
  · rw [summaryRun_of_unread hread, consoleRun_of_unread hread]
    rfl
  · rw [summaryRun_of_refuses hread h, consoleRun_of_read hread, except_ok_bind,
      Store.target_eq_error_iff.2 h]
  · rw [summaryRun_of_takes hread h, consoleRun_of_read hread, except_ok_bind,
      Store.target_eq_ok_iff.2 h]
    simp only [Console.render_eq_noResults_iff]

theorem result_summaryRun_eq_ok_iff {table : Option String} :
    (summaryRun settings s).result = .ok table ↔ ∃ text p, (consoleRun settings s).result = .ok text ∧
      s.target settings.summaryPath = .ok p ∧
      (if text = "No benchmark results found\n" then none else some text) = table := by
  rw [result_summaryRun, except_bind_eq_ok]
  cases s.target settings.summaryPath <;> simp

theorem result_summaryRun_eq_error_iff {e : ReportError} :
    (summaryRun settings s).result = .error e ↔ (consoleRun settings s).result = .error e ∨
      ∃ text fault, (consoleRun settings s).result = .ok text ∧
        s.target settings.summaryPath = .error fault ∧
        e = .unwritable settings.summaryPath fault := by
  rw [result_summaryRun, except_bind_eq_error]
  cases s.target settings.summaryPath <;> simp [eq_comm]

theorem store_consoleRun (settings : Settings) (s : Store) : (consoleRun settings s).store = s := by
  cases hread : s.readText settings.inputPath with
  | error fault => rw [consoleRun_of_unread hread]
  | ok log => rw [consoleRun_of_read hread]

/-- The two runs from one store with the same settings. A table that the summary run shows is the
report of the console run, and where it shows none the console run says that there are no results. They
fail for the same reasons, but for the summary that cannot be written. What says that there are no
results is never shown by a summary run and never the report of any rows, and the console run leaves
the store as it is. -/
theorem summaryRun_agrees (settings : Settings) (s : Store) :
    (∀ text, (summaryRun settings s).result = .ok (some text) →
      (consoleRun settings s).result = .ok text) ∧
    ((summaryRun settings s).result = .ok none →
      (consoleRun settings s).result = .ok "No benchmark results found\n") ∧
    (∀ e, (consoleRun settings s).result = .error e → (summaryRun settings s).result = .error e) ∧
    (∀ text e, (consoleRun settings s).result = .ok text → (summaryRun settings s).result = .error e →
      ∃ fault, e = .unwritable settings.summaryPath fault) ∧
    (summaryRun settings s).result ≠ .ok (some "No benchmark results found\n") ∧
    (∀ rows, rows ≠ [] → Console.render rows ≠ "No benchmark results found\n") ∧
    (consoleRun settings s).store = s := by
  refine ⟨fun text h => ?_, fun h => ?_, fun e h => result_summaryRun_eq_error_iff.2 (.inl h),
    fun text e hconsole h => ?_, fun h => ?_,
    fun rows hne h => hne (Console.render_eq_noResults_iff.1 h), store_consoleRun settings s⟩
  · obtain ⟨shown, p, hconsole, -, htable⟩ := result_summaryRun_eq_ok_iff.1 h
    split_ifs at htable
    cases htable
    exact hconsole
  · obtain ⟨shown, p, hconsole, -, htable⟩ := result_summaryRun_eq_ok_iff.1 h
    split_ifs at htable with hshown
    exact hshown ▸ hconsole
  · rcases result_summaryRun_eq_error_iff.1 h with herror | ⟨_, fault, -, -, he⟩
    · rw [hconsole] at herror
      cases herror
    · exact ⟨fault, he⟩
  · obtain ⟨shown, p, -, -, htable⟩ := result_summaryRun_eq_ok_iff.1 h
    split_ifs at htable with hshown
    exact hshown (Option.some.inj htable)

/-- A summary beside its log, one of a log without a table into the log itself, one without a log, and
one that cannot be written. -/
theorem summaryRun_agrees_sample :
    ((summaryRun ⟨"log", "old.md", "warn"⟩ sampleStore).result =
        .ok (some (Console.render [⟨"go", "1", "5", "3"⟩])) ∧
      (consoleRun ⟨"log", "old.md", "warn"⟩ sampleStore).result =
        .ok (Console.render [⟨"go", "1", "5", "3"⟩])) ∧
    ((summaryRun ⟨"log", "log", "warn"⟩ (.ofTexts [("log", "warming up\n")])).result = .ok none ∧
      (consoleRun ⟨"log", "log", "warn"⟩ (.ofTexts [("log", "warming up\n")])).result =
        .ok "No benchmark results found\n") ∧
    ((consoleRun ⟨"late", "old.md", "warn"⟩ sampleStore).result = .error (.missingLog "late") ∧
      (summaryRun ⟨"late", "old.md", "warn"⟩ sampleStore).result = .error (.missingLog "late")) ∧
    ∃ text e, (consoleRun ⟨"log", "log/new.md", "warn"⟩ sampleStore).result = .ok text ∧
      (summaryRun ⟨"log", "log/new.md", "warn"⟩ sampleStore).result = .error e ∧
      ∃ fault, e = .unwritable "log/new.md" fault := by
  have hread : sampleStore.readText (Settings.inputPath ⟨"log", "old.md", "warn"⟩) =
      .ok "Runtime Min\n| go | 1 | 5 | 3 |\n" := readText_sampleStore
  have htakes : sampleStore.Takes (Settings.summaryPath ⟨"log", "old.md", "warn"⟩) ["w", "old.md"] :=
    takes_sampleStore
  have hshown : (summaryRun ⟨"log", "old.md", "warn"⟩ sampleStore).result =
      .ok (some (Console.render [⟨"go", "1", "5", "3"⟩])) := by
    rw [summaryRun_of_takes hread htakes, parse_sample]
    rfl
  have hself : (Store.ofTexts [("log", "warming up\n")]).readText
      (Settings.inputPath ⟨"log", "log", "warn"⟩) = .ok "warming up\n" := rfl
  have hempty : (Store.ofTexts [("log", "warming up\n")]).Takes
      (Settings.summaryPath ⟨"log", "log", "warn"⟩) ["w", "log"] := Store.target_eq_ok_iff.1 rfl
  have hnone : (summaryRun ⟨"log", "log", "warn"⟩ (.ofTexts [("log", "warming up\n")])).result =
      .ok none := by
    have hrows : parse "warming up\n" = [] := by decide +kernel
    rw [summaryRun_of_takes hself hempty, if_pos hrows]
  have hlate : (consoleRun ⟨"late", "old.md", "warn"⟩ sampleStore).result =
      .error (.missingLog "late") := rfl
  have hbelow : sampleStore.readText (Settings.inputPath ⟨"log", "log/new.md", "warn"⟩) =
      .ok "Runtime Min\n| go | 1 | 5 | 3 |\n" := readText_sampleStore
  have hrefuses : sampleStore.Refuses (Settings.summaryPath ⟨"log", "log/new.md", "warn"⟩)
      .notDirectory := Store.target_eq_error_iff.1 rfl
  have hconsole := congrArg Run.result (consoleRun_of_read hbelow)
  have hfails := congrArg Run.result (summaryRun_of_refuses hbelow hrefuses)
  exact ⟨⟨hshown, (summaryRun_agrees _ _).1 _ hshown⟩, ⟨hnone, (summaryRun_agrees _ _).2.1 hnone⟩,
    ⟨hlate, (summaryRun_agrees _ _).2.2.1 _ hlate⟩,
    _, _, hconsole, hfails, (summaryRun_agrees _ _).2.2.2.1 _ _ hconsole hfails⟩

end TimingTable
