import TimingTable.Settings.Format
import TimingTable.Settings.Layers

/-!
# Loading settings

`Settings.load` finds one of two usual files and `Settings.loadFrom` the file at a path, and both build
the settings from what they find, or from no file. Where there is something it must be used: a file is
read in the format of its extension, and for anything else the files are tried whose names have one more
extension. Every way in which this can fail is an error, so a file that is there is never passed over.
-/

namespace TimingTable

/-- The extension of a file name: what follows its last point, unless that point is its first
character. -/
def extension? (name : String) : Option String :=
  match (name.toList.splitOn '.').reverse with
  | last :: middle :: rest =>
    if rest = [] && middle = [] then none else some (String.ofList last)
  | _ => none

namespace Store

/-- The names of a path, without those that stay where they are. -/
def steps (text : String) : List String := (Path.namesOf text).filter (· ≠ ".")

/-- A path written with its steps only. -/
def shortPath (text : String) : String :=
  (if text.toList.head? = some '/' then "/" else "") ++ "/".intercalate (steps text)

/-- The format that the extension of a path tells. -/
def formatOf? (path : String) : Option Format :=
  ((steps path).getLast?.bind extension?).bind Format.ofExtension?

/-- The files beside a path that have one more extension, with their formats, the formats in a given
order. -/
def filesBeside (formats : List Format) (path : String) : List (String × Format) :=
  formats.flatMap fun f => f.extensions.map fun e => (shortPath path ++ "." ++ e, f)

variable [Formats]

/-- The first file beside a path, in the order in which the formats are tried. A path without a name at
its end has none. -/
def fileBeside? (s : Store) (path : String) : Option (String × Format) :=
  match (steps path).getLast? with
  | none | some ".." => none
  | some _ => (filesBeside Formats.order path).find? fun c => s.isFile c.1

/-- The file that a path stands for, with its format: the path itself if it is a file, else one beside
it. -/
def settingsFile (s : Store) (path : String) : Except SettingsError (String × Format) :=
  if s.isFile path then
    match formatOf? path with
    | some format => .ok (path, format)
    | none => .error (.unknownFormat ("/" ++ "/".intercalate s.home) path)
  else match s.fileBeside? path with
    | some found => .ok found
    | none => .error (.noFile path)

/-- The layer of a file in a format. -/
def readLayer (s : Store) (file : String × Format) : Except SettingsError Layer :=
  match s.readText file.1 with
  | .error fault => .error (.unreadable fault)
  | .ok content =>
    let name := shortPath file.1
    match file.2.read? content with
    | none => .error (.malformed ⟨name, Formats.refusal file.2 name content⟩)
    | some entries => .ok ⟨some name, entries⟩

/-- The layer of the settings file that a path to something stands for. -/
def settingsLayer (s : Store) (path : String) : Except SettingsError Layer := do
  s.readLayer (← s.settingsFile path)

end Store

namespace Settings

/-- The file that settings are loaded from, if it is there. -/
def firstFile : String := "benchtable.toml"

/-- The file that settings are loaded from where the first one is not there. -/
def secondFile : String := "benchtable.yaml"

def usualFiles : List String :=
  [firstFile, secondFile].flatMap fun file =>
    file :: (Store.filesBeside Format.all file).map Prod.fst

variable [Formats]

/-- The layer of the file at a path, or of no file. -/
def layerOf (s : Store) : Option String → Except SettingsError Layer
  | some path => s.settingsLayer path
  | none => .ok {}

/-- The settings from the file at a path, or from none, over the defaults and under the environment. -/
def build (s : Store) (env : Environment) (file : Option String) : Except SettingsError Settings := do
  ofLayers (← layerOf s file) (.ofEnvironment env)

/-- The settings from the file at a path; a path where there is nothing is ignored. -/
def loadFrom (s : Store) (env : Environment) (path : String) : Except SettingsError Settings :=
  build s env (if s.exists? path then some path else none)

/-- The settings from the first of the usual files that is there. -/
def load (s : Store) (env : Environment) : Except SettingsError Settings :=
  build s env ([firstFile, secondFile].find? s.exists?)

end Settings

end TimingTable
