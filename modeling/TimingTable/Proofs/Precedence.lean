import TimingTable.Proofs.PlainNames

/-!
# Which value wins for a key

For a file and an environment with plain names, at most one entry of each matters for a key, and what
is given for the key is what the last of the three layers gives (`assign_plainFile`,
`assign_ofEnvironment`). The value that wins is then the text in the environment, else the value in the
file, else the default (`Settings.winner`), and loading comes down to whether the winners are scalars
(`Settings.ofLayers_gives_winners`).
-/

namespace TimingTable
variable {text : String} {key : Key} {env : Environment} {file : Layer} {settings : Settings}

/-- A fold in which only one kind of element gives something gives what the first of the kind does,
where there is no second one. -/
theorem foldl_eq_getD_find? {α β : Type} {f : β → α → β} {p : α → Prop} [DecidablePred p]
    {give? : α → Option β} {xs : List α} (hone : xs.Pairwise fun a b => p a → ¬ p b)
    (hf : ∀ a ∈ xs, ∀ b, f b a = if p a then (give? a).getD b else b) (b : β) :
    xs.foldl f b = ((xs.find? fun a => p a).bind give?).getD b := by
  induction xs generalizing b with
  | nil => rfl
  | cons a xs ih =>
    obtain ⟨ha, hone⟩ := List.pairwise_cons.1 hone
    obtain ⟨hfa, hf⟩ := List.forall_mem_cons.1 hf
    rw [List.foldl_cons, ih hone hf, hfa]
    by_cases hp : p a
    · have hnone : (xs.find? fun a => p a) = none :=
        List.find?_eq_none.2 fun x hx => by simp [ha x hx hp]
      rw [hnone, List.find?_cons_of_pos (by simp [hp]), if_pos hp]
      rfl
    · rw [List.find?_cons_of_neg (by simp [hp]), if_neg hp]

namespace Layer

/-- The variables for settings go on with plain names, no two of which are the same in lower case. -/
structure PlainEnvironment (env : Environment) : Prop where
  plain : ∀ e ∈ env, ∀ rest, IsVariable e.1 rest → PlainName rest
  distinct : env.Pairwise fun a b => (∃ rest, IsVariable a.1 rest) → a.1.toLower ≠ b.1.toLower

/-- The text that the environment has for a key, in any spelling of its variable. -/
def environmentText? (env : Environment) (key : Key) : Option String :=
  (env.find? fun e => e.1.toLower = variableOf key).map (·.2)

theorem assign_ofEnvironment (h : PlainEnvironment env) (key : Key) (g : Given) :
    (ofEnvironment env).assign key g = ((environmentText? env key).map .scalar).getD g := by
  have hone : env.Pairwise fun a b =>
      a.1.toLower = variableOf key → ¬ b.1.toLower = variableOf key := by
    refine h.distinct.imp fun {a b} hab ha hb => ?_
    exact hab (exists_isVariable_of_toLower_eq ha) (ha.trans hb.symm)
  rw [environmentText?, Option.map_map, Option.map_eq_bind, assign_ofEnvironment_eq_foldl]
  exact foldl_eq_getD_find? hone (fun e he g => assignVariable_eq (h.plain e he) g e.2) g

/-- The value that a table has for a key, in any spelling of the key. -/
def value? (entries : List (String × Data)) (key : Key) : Option Data :=
  (entries.find? fun e => e.1.toLower = key.name).map (·.2)

/-- No name in a file leads into a table or an array, and no key is spelled in two ways. -/
structure PlainFile (file : Layer) : Prop where
  no_path : ∀ e ∈ file.entries, '.' ∉ e.1.toList ∧ '[' ∉ e.1.toList
  one_spelling : ∀ key : Key,
    file.entries.Pairwise fun a b => a.1.toLower = key.name → b.1.toLower ≠ key.name

theorem assign_plainFile (h : PlainFile file) (key : Key) (g : Given) :
    file.assign key g = ((value? file.entries key).bind (Given.ofData? file.origin)).getD g := by
  have hentry : ∀ e ∈ file.entries, ∀ g : Given, g.assign key file.origin e.1 e.2 =
      if e.1.toLower = key.name then (Given.ofData? file.origin e.2).getD g else g := fun e he g =>
    Given.assign_eq (KeyPath.read_eq (h.no_path e he).1 (h.no_path e he).2) file.origin g e.2
  rw [value?, Option.bind_map, assign]
  exact foldl_eq_getD_find? (h.one_spelling key) hentry g

end Layer

/-- Neither null nor an array nor a table. -/
def Data.IsScalar : Data → Prop
  | .null | .array _ | .object _ => False
  | .bool _ | .int _ | .float _ | .string _ => True

theorem Data.exists_scalarText?_iff {v : Data} :
    (∃ text, v.scalarText? = some text) ↔ v.IsScalar := by
  cases v <;> simp [scalarText?, IsScalar]

/-- A value that gives something and is no scalar. -/
theorem Data.cases_of_not_isScalar {v : Data} (h : ¬ v.IsScalar) (hne : v ≠ .object []) :
    v = .null ∨ (∃ items, v = .array items) ∨ ∃ e entries, v = .object (e :: entries) := by
  cases v with
  | null => exact .inl rfl
  | array items => exact .inr (.inl ⟨items, rfl⟩)
  | object entries =>
    cases entries with
    | nil => exact absurd rfl hne
    | cons e entries => exact .inr (.inr ⟨e, entries, rfl⟩)
  | _ => exact absurd trivial h

theorem Given.text?_of_ofData? {origin : Option String} {v : Data} {g : Given}
    (h : ofData? origin v = some g) : g.text? = v.scalarText? := by
  cases v with
  | object entries =>
    cases entries with
    | nil => cases h
    | cons e entries => cases h; rfl
  | _ => cases h; rfl

namespace Settings

/-- The value that wins for a key: the text that the environment has for it, else the value that the
file has for it and that is no empty table, else the default. -/
def winner (entries : List (String × Data)) (env : Environment) (key : Key) : Data :=
  match Layer.environmentText? env key, Layer.value? entries key with
  | some text, _ => .string text
  | none, none => .string (default.get key)
  | none, some (.object []) => .string (default.get key)
  | none, some v => v

theorem ofData?_winner (hfile : file.PlainFile) (henv : Layer.PlainEnvironment env) (key : Key) :
    Given.ofData? file.origin (winner file.entries env key) =
      some (given file (.ofEnvironment env) key) := by
  rw [given, Layer.assign_ofEnvironment henv, Layer.assign_plainFile hfile, winner]
  cases Layer.environmentText? env key with
  | some text => rfl
  | none =>
    cases Layer.value? file.entries key with
    | none => rfl
    | some v =>
      cases v with
      | object entries => cases entries <;> rfl
      | _ => rfl

theorem winner_of_environmentText? {entries : List (String × Data)}
    (h : Layer.environmentText? env key = some text) : winner entries env key = .string text := by
  rw [winner, h]

theorem winner_of_value? {entries : List (String × Data)} {v : Data}
    (henv : Layer.environmentText? env key = none) (hvalue : Layer.value? entries key = some v)
    (hne : v ≠ .object []) : winner entries env key = v := by
  rw [winner, henv, hvalue]
  cases v with
  | object entries =>
    cases entries with
    | nil => exact absurd rfl hne
    | cons => rfl
  | _ => rfl

section
variable (hfile : file.PlainFile) (henv : Layer.PlainEnvironment env)
include hfile henv

theorem text?_given (key : Key) : (given file (.ofEnvironment env) key).text? =
    (winner file.entries env key).scalarText? :=
  Given.text?_of_ofData? (ofData?_winner hfile henv key)

theorem ofLayers_eq_ok_iff_winner : ofLayers file (.ofEnvironment env) = .ok settings ↔
    ∀ key, (winner file.entries env key).scalarText? = some (settings.get key) := by
  simp only [ofLayers_eq_ok_iff, text?_given hfile henv]

theorem exists_ofLayers_eq_ok_iff : (∃ settings, ofLayers file (.ofEnvironment env) = .ok settings) ↔
    ∀ key, (winner file.entries env key).IsScalar := by
  simp only [ofLayers_eq_ok_iff_winner hfile henv, ← Data.exists_scalarText?_iff]
  constructor
  · rintro ⟨settings, h⟩ key
    exact ⟨settings.get key, h key⟩
  · intro h
    choose text htext using h
    refine ⟨⟨text .inputPath, text .summaryPath, text .logLevel⟩, fun key => ?_⟩
    cases key <;> exact htext _

theorem not_isScalar_of_ofLayers_eq_error {e : SettingsError}
    (h : ofLayers file (.ofEnvironment env) = .error e) :
    ∃ key g, e = .wrongType key g ∧ Given.ofData? file.origin (winner file.entries env key) = some g ∧
      ¬ (winner file.entries env key).IsScalar := by
  obtain ⟨key, hnone, rfl⟩ := exists_of_ofLayers_eq_error h
  rw [text?_given hfile henv] at hnone
  refine ⟨key, _, rfl, ofData?_winner hfile henv key, fun hscalar => ?_⟩
  obtain ⟨text, htext⟩ := Data.exists_scalarText?_iff.2 hscalar
  rw [htext] at hnone
  cases hnone

theorem winner_ne_emptyTable (key : Key) : winner file.entries env key ≠ .object [] := by
  intro h
  have hwinner := ofData?_winner hfile henv key
  rw [h] at hwinner
  cases hwinner

end

/-- Each setting is the text of what wins for its key, and loading succeeds just where that is a
scalar for every key. Otherwise the error names a key for which something else wins, and what: so a
text in the environment makes good for anything in the file, and nothing else in the file is passed
over but an empty table. -/
theorem ofLayers_gives_winners [Formats] (hfile : file.PlainFile) (henv : Layer.PlainEnvironment env) :
    (∀ settings, ofLayers file (.ofEnvironment env) = .ok settings ↔
      ∀ key, (winner file.entries env key).scalarText? = some (settings.get key)) ∧
    ((∃ settings, ofLayers file (.ofEnvironment env) = .ok settings) ↔
      ∀ key, (winner file.entries env key).IsScalar) ∧
    (∀ e, ofLayers file (.ofEnvironment env) = .error e → ∃ key g, e = .wrongType key g ∧
      Given.ofData? file.origin (winner file.entries env key) = some g ∧
      (winner file.entries env key = .null ∨ (∃ items, winner file.entries env key = .array items) ∨
        ∃ entry entries, winner file.entries env key = .object (entry :: entries))) ∧
    (∀ key text, Layer.environmentText? env key = some text →
      (∀ g, ofLayers file (.ofEnvironment env) ≠ .error (.wrongType key g)) ∧
      ∀ settings, ofLayers file (.ofEnvironment env) = .ok settings → settings.get key = text) ∧
    (∀ key v, Layer.environmentText? env key = none → Layer.value? file.entries key = some v →
      v ≠ .object [] → ¬ v.IsScalar → ∃ e, ofLayers file (.ofEnvironment env) = .error e) ∧
    ∀ s path, layerAt s path = .ok file →
      loadFrom s env path = ofLayers file (.ofEnvironment env) := by
  refine ⟨fun settings => ofLayers_eq_ok_iff_winner hfile henv, exists_ofLayers_eq_ok_iff hfile henv,
    fun e he => ?_, fun key text htext => ⟨fun g hg => ?_, fun settings hok => ?_⟩,
    fun key v hnone hvalue hne hscalar => ?_, fun s path hlayer => ?_⟩
  · obtain ⟨key, g, rfl, hg, hscalar⟩ := not_isScalar_of_ofLayers_eq_error hfile henv he
    exact ⟨key, g, rfl, hg,
      Data.cases_of_not_isScalar hscalar (winner_ne_emptyTable hfile henv key)⟩
  · obtain ⟨key', g', herror, -, hscalar⟩ := not_isScalar_of_ofLayers_eq_error hfile henv hg
    cases herror
    rw [winner_of_environmentText? htext] at hscalar
    exact hscalar trivial
  · have hget := (ofLayers_eq_ok_iff_winner hfile henv).1 hok key
    rw [winner_of_environmentText? htext] at hget
    exact (Option.some.inj hget).symm
  · cases h : ofLayers file (.ofEnvironment env) with
    | error e => exact ⟨e, rfl⟩
    | ok settings =>
      have hwinner := (exists_ofLayers_eq_ok_iff hfile henv).1 ⟨settings, h⟩ key
      rw [winner_of_value? hnone hvalue hne] at hwinner
      exact absurd hwinner hscalar
  · rw [loadFrom_eq, hlayer, except_ok_bind]

/-- A file with a number, an array, an empty table, and a key that is none of the settings. -/
def sampleFile : Layer where
  origin := some "benchtable.json"
  entries := [("Log_Level", .array []), ("INPUT_PATH", .int 7), ("summary_path", .object []),
    ("other", .null)]

/-- The level is set to the empty text. -/
def sampleEnvironment : Environment := [("Benchtable_log_level", ""), ("PATH", "/bin")]

theorem plainFile_sampleFile : sampleFile.PlainFile where
  no_path := by decide
  one_spelling key := by cases key <;> decide +kernel

theorem plainEnvironment_sampleEnvironment : Layer.PlainEnvironment sampleEnvironment where
  plain := by
    intro e he rest hrest
    have hstart := Layer.exists_isVariable_iff.1 ⟨rest, hrest⟩
    have hdrop := hrest.rest_eq
    rcases List.mem_pair.1 he with rfl | rfl
    · have hplain : Layer.PlainName "log_level" := ⟨by simp, by simp⟩
      have hrest' : rest = "log_level" := String.toList_inj.1 (hdrop.trans (by decide +kernel))
      exact hrest' ▸ hplain
    · exact absurd hstart (by decide +kernel)
  distinct := by
    refine List.pairwise_pair.2 fun _ => ?_
    decide +kernel

theorem ofLayers_gives_winners_sample :
    ofLayers sampleFile (.ofEnvironment sampleEnvironment) = .ok ⟨"7", "bench-summary.md", ""⟩ ∧
      ∃ e, ofLayers sampleFile (.ofEnvironment []) = .error e := by
  have hnone : Layer.PlainEnvironment [] := ⟨by simp, .nil⟩
  have hlevel : "Log_Level".toLower = Key.logLevel.name := by decide +kernel
  obtain ⟨hok, -⟩ := ofLayers_gives_winners plainFile_sampleFile plainEnvironment_sampleEnvironment
  obtain ⟨-, -, -, -, hbad, -⟩ := ofLayers_gives_winners plainFile_sampleFile hnone
  refine ⟨(hok _).2 fun key => ?_, hbad .logLevel (.array []) rfl ?_ nofun (by simp [Data.IsScalar])⟩
  · cases key <;> decide +kernel
  · simp [Layer.value?, sampleFile, hlevel]

end Settings

end TimingTable
