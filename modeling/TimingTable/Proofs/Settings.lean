import TimingTable.Settings.Load
import TimingTable.Proofs.Store.Walk

/-!
# Which settings are loaded

Loading succeeds just where a scalar wins for every key, and the settings are the texts of these
scalars (`load_eq_ok_iff`). What wins for a key depends on the environment only through the variables
that lead to the key (`Layer.Leads`): others can come and go (`assign_ofEnvironment_filter`). So two
environments that differ in variables for one key only give the same text for the other keys.
-/

namespace TimingTable
variable {file environment : Layer} {settings : Settings} {key : Key} {s : Store} {env : Environment}

namespace Given

theorem assign_of_root_ne {name : String} (h : (KeyPath.read name).root ≠ key.name)
    (origin : Option String) (g : Given) (value : Data) : g.assign key origin name value = g := by
  unfold assign
  generalize KeyPath.read name = path at h ⊢
  exact if_pos h

end Given

namespace Layer
variable {variableName : String}

/-- An environment variable that says something about a key, or about a part of it. -/
def Leads (variableName : String) (key : Key) : Prop :=
  ∃ name, settingName? variableName = some name ∧ (KeyPath.read name).root = key.name

theorem assign_ofEnvironment_cons (variableName value : String) (env : Environment) (g : Given) :
    (ofEnvironment ((variableName, value) :: env)).assign key g =
      (ofEnvironment env).assign key (match settingName? variableName with
        | some name => g.assign key none name (.string value)
        | none => g) := by
  simp only [assign, ofEnvironment, List.filterMap_cons]
  cases settingName? variableName <;> rfl

/-- A variable that does not lead to a key leaves what is given for it. -/
theorem assign_ofEnvironment_cons_of_not_leads (h : ¬ Leads variableName key) (value : String)
    (env : Environment) (g : Given) :
    (ofEnvironment ((variableName, value) :: env)).assign key g = (ofEnvironment env).assign key g := by
  rw [assign_ofEnvironment_cons]
  cases hname : settingName? variableName with
  | none => rfl
  | some name =>
    have hroot : (KeyPath.read name).root ≠ key.name := fun hroot => h ⟨name, hname, hroot⟩
    simp only [Given.assign_of_root_ne hroot]

theorem assign_ofEnvironment_filter {keep : String × String → Bool}
    (h : ∀ e, keep e = false → ¬ Leads e.1 key) (env : Environment) (g : Given) :
    (ofEnvironment (env.filter keep)).assign key g = (ofEnvironment env).assign key g := by
  induction env generalizing g with
  | nil => rfl
  | cons e env ih =>
    cases hkeep : keep e with
    | true =>
      rw [List.filter_cons_of_pos hkeep, assign_ofEnvironment_cons, assign_ofEnvironment_cons, ih]
    | false =>
      rw [List.filter_cons_of_neg (by simp [hkeep]), ih,
        assign_ofEnvironment_cons_of_not_leads (h e hkeep)]

/-- Variables that are none for a setting can come and go. -/
theorem ofEnvironment_filter {keep : String × String → Bool}
    (h : ∀ e, keep e = false → settingName? e.1 = none) (env : Environment) :
    ofEnvironment (env.filter keep) = ofEnvironment env := by
  have hentries : ∀ e : String × String,
      (if keep e = true then (settingName? e.1).map (·, Data.string e.2) else none) =
        (settingName? e.1).map (·, Data.string e.2) := fun e => by
    cases hkeep : keep e with
    | true => rw [if_pos rfl]
    | false => rw [h e hkeep]; rfl
  simp only [ofEnvironment, List.filterMap_filter, hentries]

end Layer

namespace Settings

/-- The text of what wins for a key. -/
def wonText (file environment : Layer) (key : Key) : Except SettingsError String :=
  match (given file environment key).text? with
  | some text => .ok text
  | none => .error (.wrongType key (given file environment key))

theorem wonText_eq_ok_iff {text : String} :
    wonText file environment key = .ok text ↔ (given file environment key).text? = some text := by
  rw [wonText]
  cases (given file environment key).text? <;> simp

theorem wonText_eq_error_iff {e : SettingsError} :
    wonText file environment key = .error e ↔
      (given file environment key).text? = none ∧ e = .wrongType key (given file environment key) := by
  rw [wonText]
  cases (given file environment key).text? <;> simp [eq_comm]

theorem ofLayers_eq (file environment : Layer) : ofLayers file environment =
    wonText file environment .inputPath >>= fun inputPath =>
      wonText file environment .summaryPath >>= fun summaryPath =>
        wonText file environment .logLevel >>= fun logLevel =>
          pure ⟨inputPath, summaryPath, logLevel⟩ := rfl

theorem ofLayers_eq_ok_iff : ofLayers file environment = .ok settings ↔
    ∀ key, (given file environment key).text? = some (settings.get key) := by
  rw [ofLayers_eq]
  simp only [except_bind_eq_ok, wonText_eq_ok_iff]
  constructor
  · rintro ⟨inputPath, hinput, summaryPath, hsummary, logLevel, hlevel, hsettings⟩ key
    obtain rfl : (⟨inputPath, summaryPath, logLevel⟩ : Settings) = settings := Except.ok.inj hsettings
    cases key with
    | inputPath => exact hinput
    | summaryPath => exact hsummary
    | logLevel => exact hlevel
  · intro h
    exact ⟨_, h .inputPath, _, h .summaryPath, _, h .logLevel, rfl⟩

/-- An error is about a key for which no scalar wins. -/
theorem exists_of_ofLayers_eq_error {e : SettingsError}
    (h : ofLayers file environment = .error e) :
    ∃ key, (given file environment key).text? = none ∧
      e = .wrongType key (given file environment key) := by
  rw [ofLayers_eq] at h
  simp only [except_bind_eq_error, wonText_eq_error_iff] at h
  rcases h with h | ⟨_, -, h | ⟨_, -, h | ⟨_, -, h⟩⟩⟩
  · exact ⟨.inputPath, h⟩
  · exact ⟨.summaryPath, h⟩
  · exact ⟨.logLevel, h⟩
  · cases h

variable [Formats]

theorem build_eq (s : Store) (env : Environment) (path : Option String) : build s env path =
    layerOf s path >>= fun file => ofLayers file (.ofEnvironment env) := rfl

/-- The layer of the file at a path, where there is one. -/
def layerAt (s : Store) (path : String) : Except SettingsError Layer :=
  if s.exists? path then s.settingsLayer path else .ok {}

theorem loadFrom_eq (s : Store) (env : Environment) (path : String) : loadFrom s env path =
    layerAt s path >>= fun file => ofLayers file (.ofEnvironment env) := by
  rw [loadFrom, build_eq, layerAt]
  cases s.exists? path <;> rfl

/-- The layer of the settings file, where there is one. -/
def fileLayer (s : Store) : Except SettingsError Layer := layerOf s ([firstFile, secondFile].find? s.exists?)

theorem load_eq (s : Store) (env : Environment) : load s env =
    fileLayer s >>= fun file => ofLayers file (.ofEnvironment env) := rfl

theorem load_eq_ok_iff : load s env = .ok settings ↔
    ∃ file, fileLayer s = .ok file ∧
      ∀ key, (given file (.ofEnvironment env) key).text? = some (settings.get key) := by
  rw [load_eq, except_bind_eq_ok]
  simp only [ofLayers_eq_ok_iff]

theorem load_congr {env' : Environment}
    (h : Layer.ofEnvironment env = Layer.ofEnvironment env') (s : Store) :
    load s env = load s env' := by
  rw [load_eq, load_eq, h]

/-- Two environments that are the same but for variables that do not lead to a key give the same
setting for it. -/
theorem get_eq_of_filter_eq {keep : String × String → Bool} {env' : Environment} {settings' : Settings}
    (henv : env.filter keep = env'.filter keep) (h : ∀ e, keep e = false → ¬ Layer.Leads e.1 key)
    (hload : load s env = .ok settings) (hload' : load s env' = .ok settings') :
    settings.get key = settings'.get key := by
  obtain ⟨file, hfile, htext⟩ := load_eq_ok_iff.1 hload
  obtain ⟨file', hfile', htext'⟩ := load_eq_ok_iff.1 hload'
  obtain rfl : file = file' := Except.ok.inj (hfile.symm.trans hfile')
  have hgiven : given file (.ofEnvironment env) key = given file (.ofEnvironment env') key := by
    rw [given, given, ← Layer.assign_ofEnvironment_filter h env, henv,
      Layer.assign_ofEnvironment_filter h env']
  have hsome : some (settings.get key) = some (settings'.get key) := by
    rw [← htext key, ← htext' key, hgiven]
  exact Option.some.inj hsome

end Settings

end TimingTable
