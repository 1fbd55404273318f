import TimingTable.Proofs.Rounds
import TimingTable.Proofs.Runs

/-!
# Repeated runs

Runs one after another on one store, with the same settings. If the summary is another file than the
log, the first summary settles the store: from there on every run gives what it gave at the start and
leaves the store as it is (`settled_summaryRun`). If it is the same file, every summary is the log of
the next run. Then each of them puts one more line of dashes in front of the rows of the first log
(`exists_log_afterRuns`), as rounds of markdown reports do.
-/

namespace TimingTable
variable {settings : Settings} {s t : Store} {text : String}

/-- The store after some runs, each on the store that the one before it leaves. -/
def afterRuns (settings : Settings) (s : Store) (calls : List Command) : Store :=
  calls.foldl (fun s c => (c.tableRun settings s).store) s

/-- The results of some runs, each on the store that the one before it leaves. -/
def runResults (settings : Settings) :
    Store → List Command → List (Except ReportError (Option String))
  | _, [] => []
  | s, c :: calls =>
    (c.tableRun settings s).result :: runResults settings (c.tableRun settings s).store calls

theorem afterRuns_concat (settings : Settings) (s : Store) (calls : List Command) (c : Command) :
    afterRuns settings s (calls ++ [c]) =
      (c.tableRun settings (afterRuns settings s calls)).store := by
  rw [afterRuns, List.foldl_append]
  rfl

/-- The second store is left as it is by every run, and the runs on it give what they give on the
first. -/
def Settled (settings : Settings) (s t : Store) : Prop :=
  ∀ c : Command, (c.tableRun settings t).result = (c.tableRun settings s).result ∧
    (c.tableRun settings t).store = t

theorem Settled.runResults_eq (h : Settled settings s t) (calls : List Command) :
    runResults settings t calls = calls.map fun c => (c.tableRun settings s).result := by
  induction calls with
  | nil => rfl
  | cons c calls ih => rw [runResults, (h c).1, (h c).2, ih, List.map_cons]

theorem Settled.afterRuns_eq (h : Settled settings s t) (calls : List Command) :
    afterRuns settings t calls = t := by
  induction calls with
  | nil => rfl
  | cons c calls ih =>
    rw [afterRuns, List.foldl_cons, (h c).2]
    exact ih

theorem settled_summaryRun (hne : ¬ s.SameFile settings.inputPath settings.summaryPath) :
    Settled settings s (summaryRun settings s).store := by
  intro c
  rcases summaryRun_cases settings s with ⟨fault, hread⟩ | ⟨log, fault, hread, h⟩ | ⟨log, p, hread, h⟩
  · rw [summaryRun_of_unread hread]
    cases c with
    | output => exact ⟨rfl, Command.store_tableRun_output settings s⟩
    | summary => exact ⟨rfl, by rw [Command.tableRun, summaryRun_of_unread hread]⟩
  · rw [summaryRun_of_refuses hread h]
    cases c with
    | output => exact ⟨rfl, Command.store_tableRun_output settings s⟩
    | summary => exact ⟨rfl, by rw [Command.tableRun, summaryRun_of_refuses hread h]⟩
  · rw [summaryRun_of_takes hread h]
    -- the log is still there, and the summary has its place already
    have hread' : (s.put p (.file (Markdown.render (parse log)).toUTF8)).readText settings.inputPath =
        .ok log := h.readText_put_file_of_ne hne hread
    have h' : (s.put p (.file (Markdown.render (parse log)).toUTF8)).Takes settings.summaryPath p :=
      h.put_file
    cases c with
    | output =>
      refine ⟨?_, Command.store_tableRun_output settings _⟩
      rw [Command.tableRun_output_of_read hread', Command.tableRun_output_of_read hread]
    | summary =>
      rw [Command.tableRun, Command.tableRun, summaryRun_of_takes hread' h', summaryRun_of_takes hread h]
      exact ⟨rfl, Store.put_put s⟩

/-- Up to the first summary nothing changes, and after it nothing changes any more. -/
theorem runResults_eq_map (hne : ¬ s.SameFile settings.inputPath settings.summaryPath)
    (calls : List Command) :
    runResults settings s calls = (calls.map fun c => (c.tableRun settings s).result) ∧
      afterRuns settings s calls =
        if .summary ∈ calls then (summaryRun settings s).store else s := by
  induction calls with
  | nil => exact ⟨rfl, rfl⟩
  | cons c calls ih =>
    rw [runResults, List.map_cons, afterRuns, List.foldl_cons, ← afterRuns]
    cases c with
    | output =>
      rw [Command.store_tableRun_output, ih.1, ih.2]
      simp
    | summary =>
      have h := settled_summaryRun hne
      rw [Command.tableRun, h.runResults_eq, h.afterRuns_eq]
      simp

/-- The lines of dashes of some summaries, as the rows that they are read as. -/
def dashes (count : Nat) : List Row := List.replicate count ⟨"--------", "-----", "-----", "-----"⟩

theorem summaryRun_of_sameFile (hsame : s.SameFile settings.inputPath settings.summaryPath)
    (hread : s.readText settings.inputPath = .ok text) :
    (summaryRun settings s).result =
        .ok (if parse text = [] then none else some (Console.render (parse text))) ∧
      (summaryRun settings s).store.SameFile settings.inputPath settings.summaryPath ∧
      (summaryRun settings s).store.readText settings.inputPath = .ok (Markdown.render (parse text)) ∧
      (summaryRun settings s).store.readText settings.summaryPath =
        .ok (Markdown.render (parse text)) := by
  obtain ⟨p, n, hlocate, h⟩ := id hsame
  rw [summaryRun_of_takes hread h]
  exact ⟨rfl, hsame.put_file h, hsame.readText_put_file h _, h.readText_put_file _⟩

/-- After some summaries of a file into itself, the file is the last of them and has the rows of the
first log below as many lines of dashes. -/
theorem exists_log_afterRuns (hsame : s.SameFile settings.inputPath settings.summaryPath)
    (hread : s.readText settings.inputPath = .ok text) (calls : List Command) :
    (afterRuns settings s calls).SameFile settings.inputPath settings.summaryPath ∧
      ∃ log, (afterRuns settings s calls).readText settings.inputPath = .ok log ∧
        parse log = dashes (calls.count .summary) ++ parse text ∧
        (0 < calls.count .summary →
          log = Markdown.render (dashes (calls.count .summary - 1) ++ parse text) ∧
          (afterRuns settings s calls).readText settings.summaryPath = .ok log) := by
  induction calls using List.reverseRecOn with
  | nil => exact ⟨hsame, text, hread, rfl, by simp⟩
  | append_singleton calls c ih =>
    obtain ⟨hsame, log, hread, hrows, hlast⟩ := ih
    rw [afterRuns_concat]
    cases c with
    | output =>
      rw [Command.store_tableRun_output]
      have hcount : (calls ++ [Command.output]).count .summary = calls.count .summary := by simp
      rw [hcount]
      exact ⟨hsame, log, hread, hrows, hlast⟩
    | summary =>
      have hcount : (calls ++ [Command.summary]).count .summary = calls.count .summary + 1 := by simp
      obtain ⟨-, hsame', hread', hsummary⟩ := summaryRun_of_sameFile hsame hread
      have hnext : parse (Markdown.render (parse log)) = dashes 1 ++ parse log :=
        parse_render_parse .markdown (Form.hasTable_markdown _)
      refine ⟨hsame', _, hread', ?_, fun _ => ⟨?_, hsummary⟩⟩
      · rw [hnext, hrows, hcount, dashes, dashes, dashes, ← List.append_assoc,
          List.replicate_append_replicate, Nat.add_comm]
      · rw [hcount, Nat.add_sub_cancel, hrows]

/-- Runs on one store with the same settings. If the summary is not the log, every run gives the same
each time, and the first summary is the last one to change the store. If it is, then `k` summaries make
a file of the rows of the first log below `k - 1` lines of dashes, and all runs after them give a table
with those of all `k` summaries; only a first summary can be without one. -/
theorem repeated_runs (settings : Settings) (s : Store) :
    (¬ s.SameFile settings.inputPath settings.summaryPath → ∀ calls : List Command,
      runResults settings s calls = (calls.map fun c => (c.tableRun settings s).result) ∧
      afterRuns settings s calls =
        if .summary ∈ calls then (summaryRun settings s).store else s) ∧
    ∀ text, s.SameFile settings.inputPath settings.summaryPath →
      s.readText settings.inputPath = .ok text → ∀ calls : List Command,
      (0 < calls.count .summary →
        (afterRuns settings s calls).readText settings.inputPath =
          .ok (Markdown.render (dashes (calls.count .summary - 1) ++ parse text)) ∧
        (afterRuns settings s calls).readText settings.summaryPath =
          .ok (Markdown.render (dashes (calls.count .summary - 1) ++ parse text))) ∧
      (summaryRun settings (afterRuns settings s calls)).result =
        .ok (if calls.count .summary = 0 ∧ parse text = [] then none
          else some (Console.render (dashes (calls.count .summary) ++ parse text))) ∧
      (consoleRun settings (afterRuns settings s calls)).result =
        .ok (Console.render (dashes (calls.count .summary) ++ parse text)) := by
  refine ⟨runResults_eq_map, fun text hsame hread calls => ?_⟩
  obtain ⟨hsame', log, hread', hrows, hlast⟩ := exists_log_afterRuns hsame hread calls
  refine ⟨fun hpos => ?_, ?_, ?_⟩
  · obtain ⟨rfl, hsummary⟩ := hlast hpos
    exact ⟨hread', hsummary⟩
  · rw [(summaryRun_of_sameFile hsame' hread').1, hrows]
    simp [dashes]
  · rw [consoleRun_of_read hread', hrows]

/-- A summary beside the log, made three times, and one into the log itself, by another path to it. -/
theorem repeated_runs_sample :
    (¬ sampleStore.SameFile "log" "old.md" ∧
      afterRuns ⟨"log", "old.md", "warn"⟩ sampleStore [.summary, .output, .summary, .summary] =
        (summaryRun ⟨"log", "old.md", "warn"⟩ sampleStore).store) ∧
    sampleStore.SameFile "log" "../w/./log" ∧
      (afterRuns ⟨"log", "../w/./log", "warn"⟩ sampleStore [.summary, .output, .summary]).readText "log" =
        .ok (Markdown.render [⟨"--------", "-----", "-----", "-----"⟩, ⟨"go", "1", "5", "3"⟩]) := by
  have hne : ¬ sampleStore.SameFile "log" "old.md" := by
    rintro ⟨p, n, hlocate, h⟩
    obtain rfl := takes_sampleStore.eq h
    obtain ⟨-, hwalk, -⟩ := Store.locate_eq_ok_iff.1 hlocate
    have hlog : sampleStore.walk (sampleStore.start (.ofText "log")) (Path.ofText "log").names =
        .ok ["w", "log"] := rfl
    rw [hlog] at hwalk
    exact absurd (Except.ok.inj hwalk) (by decide)
  have hsame : sampleStore.SameFile "log" "../w/./log" :=
    ⟨["w", "log"], _, rfl, Store.target_eq_ok_iff.1 rfl⟩
  refine ⟨⟨hne, ?_⟩, hsame, ?_⟩
  · have h := ((repeated_runs ⟨"log", "old.md", "warn"⟩ sampleStore).1 hne
      [.summary, .output, .summary, .summary]).2
    rwa [if_pos (by decide)] at h
  · have h := (((repeated_runs ⟨"log", "../w/./log", "warn"⟩ sampleStore).2 _ hsame readText_sampleStore
      [.summary, .output, .summary]).1 (by decide)).1
    rwa [parse_sample] at h

end TimingTable
