import Mathlib.Data.List.Find
import TimingTable.Proofs.Settings
import TimingTable.Proofs.Store.Outside

/-!
# The file that settings are loaded from

To load without a path is to load from the first of the two usual files where that is there, and from the
second one otherwise (`load_eq_loadFrom`). To be there is to lead to a file or to a directory, and from then
on the other file does not count: a name stands for the first file among itself and those beside it that have
one more extension (`settingsFile_eq`), so what there is by another name changes nothing
(`load_of_sameOutside`). In which order the formats are tried beside a name is left open; all that is used
about it is that it has every format (`mem_candidates_order`).

What the first file stands for is read, and where that fails the load fails (`load_eq_error_of_layer`): there
is no way back to the second file or to the defaults. A path that is not there gives no layer at all
(`loadFrom_of_not_exists`).
-/

namespace TimingTable
open Text
variable {s t : Store} {path file : String} {format : Format} {c : String × Format} {layer : Layer}
  {e : SettingsError} {env : Environment} {settings : Settings}

namespace Store

theorem IsName.steps_eq (h : IsName path) : steps path = [path] := by
  rw [steps, h.namesOf_eq, List.filter_cons_of_pos (by simp [h.not_dots.1]), List.filter_nil]

theorem IsName.shortPath_eq (h : IsName path) : shortPath path = path := by
  rw [shortPath, if_neg h.head?_ne, h.steps_eq]
  simp

theorem mem_filesBeside :
    c ∈ filesBeside Format.all path ↔ ∃ e ∈ c.2.extensions, shortPath path ++ "." ++ e = c.1 := by
  obtain ⟨file, format⟩ := c
  simp [filesBeside, Format.mem_all]

variable [Formats]

/-- The files that can stand for a path do not depend on the order in which the formats are tried. -/
theorem mem_candidates_order : c ∈ (path, format) :: filesBeside Formats.order path ↔
    c ∈ (path, format) :: filesBeside Format.all path :=
  ((Formats.perm.flatMap_right _).cons _).mem_iff

/-! ## What a name stands for -/

theorem IsName.fileBeside?_eq (h : IsName path) (s : Store) :
    s.fileBeside? path = (filesBeside Formats.order path).find? fun c => s.isFile c.1 := by
  rw [fileBeside?, h.steps_eq, List.getLast?_singleton]
  split
  · next hnone => cases hnone
  · next hup => exact absurd (Option.some.inj hup) h.not_dots.2
  · rfl

section
variable (hname : IsName path) (hformat : formatOf? path = some format)
include hname hformat

/-- A name stands for the first file among itself and those beside it. -/
theorem settingsFile_eq (s : Store) : s.settingsFile path =
    (((path, format) :: filesBeside Formats.order path).find? fun c => s.isFile c.1).elim
      (.error (.noFile path)) .ok := by
  rw [settingsFile, hformat, hname.fileBeside?_eq, List.find?_cons]
  cases s.isFile path with
  | true => rfl
  | false => cases (filesBeside Formats.order path).find? fun c => s.isFile c.1 <;> rfl

theorem mem_of_settingsFile (h : s.settingsFile path = .ok c) :
    c ∈ (path, format) :: filesBeside Format.all path ∧ s.isFile c.1 = true := by
  rw [settingsFile_eq hname hformat] at h
  cases hfound : ((path, format) :: filesBeside Formats.order path).find? fun c => s.isFile c.1 with
  | none =>
    rw [hfound] at h
    cases h
  | some found =>
    rw [hfound] at h
    cases h
    have hfile := List.find?_some hfound
    exact ⟨mem_candidates_order.1 (List.mem_of_find?_eq_some hfound), hfile⟩

theorem settingsFile_eq_error_iff : s.settingsFile path = .error e ↔
    (∀ c ∈ (path, format) :: filesBeside Format.all path, s.isFile c.1 = false) ∧ e = .noFile path := by
  have hnone : (((path, format) :: filesBeside Formats.order path).find? fun c => s.isFile c.1) = none ↔
      ∀ c ∈ (path, format) :: filesBeside Format.all path, s.isFile c.1 = false := by
    simp only [List.find?_eq_none, mem_candidates_order, Bool.not_eq_true]
  rw [settingsFile_eq hname hformat, ← hnone]
  cases ((path, format) :: filesBeside Formats.order path).find? fun c => s.isFile c.1 with
  | none => simp [eq_comm]
  | some found => simp

/-- The layer of a name depends only on what there is by that name and beside it. -/
theorem settingsLayer_congr
    (h : ∀ c ∈ (path, format) :: filesBeside Format.all path, t.locate c.1 = s.locate c.1) :
    t.settingsLayer path = s.settingsLayer path := by
  have hfind : ∀ c ∈ (path, format) :: filesBeside Formats.order path, t.isFile c.1 = s.isFile c.1 :=
    fun c hc => isFile_congr (h c (mem_candidates_order.1 hc))
  have hsame : t.settingsFile path = s.settingsFile path := by
    rw [settingsFile_eq hname hformat, settingsFile_eq hname hformat, List.find?_congr hfind]
  rw [settingsLayer, settingsLayer, hsame]
  cases hfile : s.settingsFile path with
  | error e => rfl
  | ok c =>
    have hread := readText_congr (h c (mem_of_settingsFile hname hformat hfile).1)
    rw [except_ok_bind, except_ok_bind, readLayer, readLayer, hread]

end

/-! ## Reading it -/

theorem readLayer_eq_ok_iff : s.readLayer (file, format) = .ok layer ↔
    ∃ (text : String) (entries : _), s.Holds file text.toUTF8 ∧ format.read? text = some entries ∧
      layer = ⟨some (shortPath file), entries⟩ := by
  simp only [readLayer, ← readText_eq_ok_iff]
  cases s.readText file with
  | error fault => simp
  | ok text => cases hread : format.read? text <;> simp [hread, eq_comm]

theorem readLayer_of_unread {fault : Fault} (h : s.Unread file fault) :
    s.readLayer (file, format) = .error (.unreadable fault) := by
  simp only [readLayer, readText_of_unread h]

theorem readLayer_of_malformed {text : String} (h : s.Holds file text.toUTF8)
    (hread : format.read? text = none) : s.readLayer (file, format) =
      .error (.malformed ⟨shortPath file, Formats.refusal format (shortPath file) text⟩) := by
  simp only [readLayer, readText_eq_ok_iff.2 h, hread]

end Store

namespace Settings

theorem isName_firstFile : Store.IsName firstFile := by decide

theorem formatOf?_firstFile : Store.formatOf? firstFile = some .toml := by decide +kernel

theorem mem_filesBeside_firstFile :
    c ∈ Store.filesBeside Format.all firstFile ↔ ∃ e ∈ c.2.extensions, firstFile ++ "." ++ e = c.1 := by
  rw [Store.mem_filesBeside, isName_firstFile.shortPath_eq]

theorem isName_append {e : String} (he : e ∈ format.extensions) :
    Store.IsName (firstFile ++ "." ++ e) ∧ firstFile ++ "." ++ e ≠ secondFile := by
  have hall : ∀ f ∈ Format.all, ∀ e ∈ f.extensions, Store.IsName e ∧
      (firstFile ++ "." ++ e).utf8ByteSize ≤ Path.maxLength ∧ firstFile ++ "." ++ e ≠ secondFile := by
    decide
  obtain ⟨hname, hlong, hne⟩ := hall format format.mem_all e he
  exact ⟨isName_firstFile.append hname hlong, hne⟩

theorem isName_of_mem_candidates (h : c ∈ (firstFile, .toml) :: Store.filesBeside Format.all firstFile) :
    Store.IsName c.1 ∧ c.1 ≠ secondFile := by
  rcases List.mem_cons.1 h with rfl | h
  · exact ⟨isName_firstFile, by decide⟩
  · obtain ⟨e, he, hfile⟩ := mem_filesBeside_firstFile.1 h
    exact hfile ▸ isName_append he

section
variable [Formats]

theorem load_eq_loadFrom (s : Store) (env : Environment) : load s env =
    if s.exists? firstFile then loadFrom s env firstFile else loadFrom s env secondFile := by
  cases hfirst : s.exists? firstFile with
  | true => rw [load, loadFrom, List.find?_cons_of_pos hfirst, if_pos rfl, if_pos hfirst]
  | false =>
    rw [load, loadFrom, loadFrom, List.find?_cons_of_neg (by simp [hfirst]), if_neg (by simp)]
    cases hsecond : s.exists? secondFile with
    | true => rw [List.find?_cons_of_pos hsecond, if_pos rfl]
    | false => rw [List.find?_cons_of_neg (by simp [hsecond]), List.find?_nil, if_neg (by simp)]

theorem loadFrom_of_not_exists (h : s.exists? path = false) (env : Environment) :
    loadFrom s env path = ofLayers {} (.ofEnvironment env) := by
  rw [loadFrom_eq, layerAt, if_neg (by simp [h]), except_ok_bind]

theorem load_of_exists (h : s.exists? firstFile = true) (env : Environment) : load s env =
    s.settingsLayer firstFile >>= fun file => ofLayers file (.ofEnvironment env) := by
  rw [load_eq_loadFrom, if_pos h, loadFrom_eq, layerAt, if_pos h]

/-! ## The first file -/

theorem load_eq_error_of_layer (h : s.exists? firstFile = true) (hlayer : s.settingsLayer firstFile = .error e)
    (env : Environment) : load s env = .error e := by
  rw [load_of_exists h, hlayer, except_error_bind]

/-- Where the first file is there, the second one does not count. -/
theorem load_of_sameOutside (h : s.exists? firstFile = true)
    (hst : Store.SameOutside (s.home ++ [secondFile]) s t) (env : Environment) :
    load t env = load s env := by
  have hlocate : ∀ c ∈ (firstFile, .toml) :: Store.filesBeside Format.all firstFile,
      t.locate c.1 = s.locate c.1 := fun c hc =>
    hst.locate_eq (isName_of_mem_candidates hc).1 (isName_of_mem_candidates hc).2
  -- the other store is asked whether the first file is there, too
  have ht : t.exists? firstFile = true := by
    rw [Store.exists?_congr (hlocate _ List.mem_cons_self), h]
  rw [load_of_exists ht, load_of_exists h,
    Store.settingsLayer_congr isName_firstFile formatOf?_firstFile hlocate]

theorem settingsLayer_of_holds {content : ByteArray} (h : s.Holds firstFile content) :
    s.settingsLayer firstFile = s.readLayer (firstFile, .toml) := by
  have hfile : s.isFile firstFile = true := Store.isFile_iff_holds.2 ⟨content, h⟩
  have hfound : s.settingsFile firstFile = .ok (firstFile, .toml) := by
    rw [Store.settingsFile_eq isName_firstFile formatOf?_firstFile, List.find?_cons, hfile]
    rfl
  rw [Store.settingsLayer, hfound, except_ok_bind]

theorem load_of_not_text {content : ByteArray} (h : s.Holds firstFile content) (htext : ¬ IsText content)
    (env : Environment) : load s env = .error (.unreadable .notText) := by
  refine load_eq_error_of_layer (Store.exists?_iff.2 (.inl ⟨content, h⟩)) ?_ env
  rw [settingsLayer_of_holds h, Store.readLayer_of_unread (.notText h htext)]

theorem load_of_malformed {text : String} (h : s.Holds firstFile text.toUTF8)
    (hread : Format.toml.read? text = none) (env : Environment) :
    load s env = .error (.malformed ⟨firstFile, Formats.refusal .toml firstFile text⟩) := by
  refine load_eq_error_of_layer (Store.exists?_iff.2 (.inl ⟨_, h⟩)) ?_ env
  rw [settingsLayer_of_holds h, Store.readLayer_of_malformed h hread, isName_firstFile.shortPath_eq]

theorem load_of_isDirectory (h : s.IsDirectory firstFile)
    (hbeside : ∀ c ∈ Store.filesBeside Format.all firstFile, s.isFile c.1 = false) (env : Environment) :
    load s env = .error (.noFile firstFile) := by
  have hnone : s.settingsFile firstFile = .error (.noFile firstFile) :=
    (Store.settingsFile_eq_error_iff isName_firstFile formatOf?_firstFile).2
      ⟨List.forall_mem_cons.2 ⟨h.isFile_eq, hbeside⟩, rfl⟩
  refine load_eq_error_of_layer (Store.exists?_iff.2 (.inr h)) ?_ env
  rw [Store.settingsLayer, hnone, except_error_bind]

/-- A directory with files beside it stands for one of these. -/
theorem exists_load_of_isDirectory (h : s.IsDirectory firstFile)
    (hc : c ∈ Store.filesBeside Format.all firstFile) (hfile : s.isFile c.1 = true) (env : Environment) :
    ∃ c ∈ Store.filesBeside Format.all firstFile, s.isFile c.1 = true ∧
      load s env = s.readLayer c >>= fun file => ofLayers file (.ofEnvironment env) := by
  cases hfound : s.settingsFile firstFile with
  | error e =>
    obtain ⟨hnone, -⟩ := (Store.settingsFile_eq_error_iff isName_firstFile formatOf?_firstFile).1 hfound
    rw [hnone c (List.mem_cons_of_mem _ hc)] at hfile
    cases hfile
  | ok c =>
    obtain ⟨hmem, hisFile⟩ := Store.mem_of_settingsFile isName_firstFile formatOf?_firstFile hfound
    have hbeside : c ∈ Store.filesBeside Format.all firstFile := by
      rcases List.mem_cons.1 hmem with rfl | hmem
      · rw [h.isFile_eq] at hisFile
        cases hisFile
      · exact hmem
    refine ⟨c, hbeside, hisFile, ?_⟩
    rw [load_of_exists (Store.exists?_iff.2 (.inr h)), Store.settingsLayer, hfound, except_ok_bind]

/-- Where the first file is there, settings that are loaded have the text of a file that stands for it. -/
theorem exists_text_of_load (h : s.exists? firstFile = true) (hload : load s env = .ok settings) :
    ∃ (file : String) (format : Format) (text : String) (entries : _),
      (file, format) ∈ (firstFile, .toml) :: Store.filesBeside Format.all firstFile ∧
      s.Holds file text.toUTF8 ∧ format.read? text = some entries ∧
      ofLayers ⟨some (Store.shortPath file), entries⟩ (.ofEnvironment env) = .ok settings := by
  rw [load_of_exists h, except_bind_eq_ok] at hload
  obtain ⟨layer, hlayer, hload⟩ := hload
  obtain ⟨⟨file, format⟩, hfile, hlayer⟩ := except_bind_eq_ok.1 hlayer
  obtain ⟨text, entries, hholds, hread, rfl⟩ := Store.readLayer_eq_ok_iff.1 hlayer
  exact ⟨file, format, text, entries,
    (Store.mem_of_settingsFile isName_firstFile formatOf?_firstFile hfile).1, hholds, hread, hload⟩

/-- Settings are loaded as from the first file where that is there, in whatever form, and as from the
second file otherwise. Where the first file is there, the second may be changed, put there or dropped
without any difference, and settings that are loaded have the text of a file that stands for the first one.
A first file that is no text or malformed is an error, and so is a directory without a file beside it in any
of the formats; one that has such files is loaded from one of them. A path where there is nothing gives the
settings of the defaults and the environment, whatever else there is. -/
theorem load_uses_first_file (s : Store) (env : Environment) :
    load s env = (if s.exists? firstFile then loadFrom s env firstFile else loadFrom s env secondFile) ∧
    (s.exists? firstFile = true ↔ (∃ content, s.Holds firstFile content) ∨ s.IsDirectory firstFile) ∧
    (s.exists? firstFile = true →
      (∀ t, Store.SameOutside (s.home ++ [secondFile]) s t → load t env = load s env) ∧
      ∀ settings, load s env = .ok settings →
        ∃ (file : String) (format : Format) (text : String) (entries : _),
          (file, format) ∈ (firstFile, .toml) :: Store.filesBeside Format.all firstFile ∧
          s.Holds file text.toUTF8 ∧ format.read? text = some entries ∧
          ofLayers ⟨some (Store.shortPath file), entries⟩ (.ofEnvironment env) = .ok settings) ∧
    (∀ text : String, s.Holds firstFile text.toUTF8 → Format.toml.read? text = none →
      load s env = .error (.malformed ⟨firstFile, Formats.refusal .toml firstFile text⟩)) ∧
    (∀ content, s.Holds firstFile content → ¬ IsText content →
      load s env = .error (.unreadable .notText)) ∧
    (s.IsDirectory firstFile →
      ((∀ format : Format, ∀ e ∈ format.extensions, s.isFile (firstFile ++ "." ++ e) = false) →
        load s env = .error (.noFile firstFile)) ∧
      ∀ format : Format, ∀ e ∈ format.extensions, s.isFile (firstFile ++ "." ++ e) = true →
        ∃ c ∈ Store.filesBeside Format.all firstFile, s.isFile c.1 = true ∧
          load s env = s.readLayer c >>= fun file => ofLayers file (.ofEnvironment env)) ∧
    ∀ path, s.exists? path = false → loadFrom s env path = ofLayers {} (.ofEnvironment env) := by
  refine ⟨load_eq_loadFrom s env, Store.exists?_iff,
    fun h => ⟨fun t hst => load_of_sameOutside h hst env, fun _ => exists_text_of_load h⟩,
    fun text h hread => load_of_malformed h hread env, fun content h htext => load_of_not_text h htext env,
    fun h => ⟨fun hnone => load_of_isDirectory h (fun c hc => ?_) env, fun format e he hfile => ?_⟩,
    fun path h => loadFrom_of_not_exists h env⟩
  · obtain ⟨e, he, hfile⟩ := mem_filesBeside_firstFile.1 hc
    exact hfile ▸ hnone c.2 e he
  · exact exists_load_of_isDirectory h (c := (firstFile ++ "." ++ e, format))
      (mem_filesBeside_firstFile.2 ⟨e, he, rfl⟩) hfile env

end

/-- A working directory with both usual files, of which the second one is good. -/
def bothFiles (first : Node) : Store :=
  ⟨["w"], [(["w"], .directory), (["w", "benchtable.toml"], first),
    (["w", "benchtable.yaml"], .file "log_level: debug\n".toUTF8)]⟩

/-- The first of the two is a directory with a file beside it. -/
def fileBeside : Store :=
  (bothFiles .directory).put ["w", "benchtable.toml.ron"] (.file "(log_level: \"info\")".toUTF8)

theorem holds_bothFiles (content : ByteArray) : (bothFiles (.file content)).Holds firstFile content :=
  Store.holds_iff_locate.2 ⟨["w", "benchtable.toml"], rfl⟩

theorem holds_fileBeside : fileBeside.Holds "benchtable.toml.ron" "(log_level: \"info\")".toUTF8 :=
  Store.holds_iff_locate.2 ⟨["w", "benchtable.toml.ron"], rfl⟩

theorem eq_of_isFile_fileBeside (hc : c ∈ Store.filesBeside Format.all firstFile)
    (hfile : fileBeside.isFile c.1 = true) : c = ("benchtable.toml.ron", .ron) := by
  obtain ⟨file, format⟩ := c
  obtain ⟨e, he, rfl⟩ := mem_filesBeside_firstFile.1 hc
  have hnode : ∀ f ∈ Format.all, ∀ e ∈ f.extensions,
      (firstFile ++ "." ++ e, f) = ("benchtable.toml.ron", .ron) ∨
        fileBeside.node? ["w", firstFile ++ "." ++ e] = none := by
    decide
  refine (hnode format format.mem_all e he).resolve_right fun hnone => ?_
  rw [Store.isFile_of_isName (isName_append he).1 hnone] at hfile
  cases hfile

theorem ofLayers_readLayer_fileBeside :
    (fileBeside.readLayer ("benchtable.toml.ron", .ron) >>= fun file => ofLayers file (.ofEnvironment [])) =
      .ok ⟨"bench-output.log", "bench-summary.md", "info"⟩ := by
  have hgiven : ∀ key, (Format.ron.read? "(log_level: \"info\")").map (fun entries =>
      (given ⟨some (Store.shortPath "benchtable.toml.ron"), entries⟩ (.ofEnvironment []) key).text?) =
        some (some (Settings.get ⟨"bench-output.log", "bench-summary.md", "info"⟩ key)) := by
    intro key
    cases key <;> decide +kernel
  cases hread : Format.ron.read? "(log_level: \"info\")" with
  | none =>
    have hnone := hgiven .logLevel
    rw [hread] at hnone
    cases hnone
  | some entries =>
    rw [hread] at hgiven
    rw [Store.readLayer_eq_ok_iff.2 ⟨_, entries, holds_fileBeside, hread, rfl⟩, except_ok_bind]
    exact ofLayers_eq_ok_iff.2 fun key => Option.some.inj (hgiven key)

theorem load_uses_first_file_spoilt :
    (bothFiles (.file "log_level = ".toUTF8)).exists? firstFile = true ∧
      load (bothFiles (.file "log_level = ".toUTF8)) [] =
        .error (.malformed ⟨firstFile, "malformed configuration"⟩) ∧
      load ((bothFiles (.file "log_level = ".toUTF8)).drop ["w", "benchtable.yaml"]) [] =
        .error (.malformed ⟨firstFile, "malformed configuration"⟩) ∧
      load ((bothFiles (.file "log_level = ".toUTF8)).put ["w", "benchtable.yaml"] .directory) [] =
        .error (.malformed ⟨firstFile, "malformed configuration"⟩) ∧
      load (bothFiles (.file ⟨#[255]⟩)) [] = .error (.unreadable .notText) ∧
      load (bothFiles .directory) [] = .error (.noFile firstFile) ∧
      load fileBeside [] = .ok ⟨"bench-output.log", "bench-summary.md", "info"⟩ ∧
      loadFrom (bothFiles .directory) [] "benchtable.json" = .ok {} := by
  obtain ⟨-, hthere, hsame, hmalformed, -⟩ :=
    load_uses_first_file (bothFiles (.file "log_level = ".toUTF8)) []
  obtain ⟨-, -, -, -, htext, -⟩ := load_uses_first_file (bothFiles (.file ⟨#[255]⟩)) []
  obtain ⟨-, -, -, -, -, hdirectory, hnothing⟩ := load_uses_first_file (bothFiles .directory) []
  obtain ⟨-, -, -, -, -, hbeside, -⟩ := load_uses_first_file fileBeside []
  have hexists : (bothFiles (.file "log_level = ".toUTF8)).exists? firstFile = true :=
    hthere.2 (.inl ⟨_, holds_bothFiles _⟩)
  have herror := hmalformed _ (holds_bothFiles _) (by decide +kernel)
  have hbytes : ¬ IsText ⟨#[255]⟩ := by
    rw [isText_iff_isValidUTF8]
    decide +kernel
  have hnone : ∀ f ∈ Format.all, ∀ e ∈ f.extensions,
      (bothFiles .directory).node? ["w", firstFile ++ "." ++ e] = none := by
    decide
  refine ⟨hexists, herror, ((hsame hexists).1 _ (.drop _ _)).trans herror,
    ((hsame hexists).1 _ (.put _ _ _)).trans herror, htext _ (holds_bothFiles _) hbytes,
    (hdirectory ⟨["w", "benchtable.toml"], rfl⟩).1 fun f e he =>
      Store.isFile_of_isName (isName_append he).1 (hnone f f.mem_all e he), ?_, ?_⟩
  · obtain ⟨c, hc, hfile, hload⟩ := (hbeside ⟨["w", "benchtable.toml"], rfl⟩).2 .ron "ron" (by decide)
      (Store.isFile_iff_holds.2 ⟨_, holds_fileBeside⟩)
    rw [hload, eq_of_isFile_fileBeside hc hfile, ofLayers_readLayer_fileBeside]
  · rw [hnothing "benchtable.json" (by decide +kernel)]
    exact ofLayers_eq_ok_iff.2 fun key => by cases key <;> decide +kernel

end Settings

end TimingTable
