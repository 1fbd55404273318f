import TimingTable.Settings
import TimingTable.Settings.KeyPath
import TimingTable.Store.Path

/-!
# Layers of settings

Settings come from three layers: the defaults, a file, and the environment. For each key on its own
the last layer that gives a value wins, so a wrong value in a file does no harm where the
environment gives another one. An empty table gives nothing. What wins has to be a scalar, and the
setting is its text; otherwise there is an error about a key for which none wins.

Two things here depend on an order that nothing fixes: which of two spellings of one key is the last in a
layer, and which key the error is about where several are wrong. The first is decided by the order of the
entries, the second by the order of the keys.
-/

namespace TimingTable

/-- What is given for a setting: a scalar, by its text, or something that is none. Null and an array
are remembered with the file that they stand in; a table is put together from entries and stands in
no file. -/
inductive Given
  | scalar (text : String)
  | null (origin : Option String)
  | array (origin : Option String)
  | table
deriving DecidableEq, Repr

abbrev Environment := List (String × String)

/-- The text of a scalar. An integer that does not fit a signed word of 64 bits is written as a
float; only positive ones are that large. -/
def Data.scalarText? : Data → Option String
  | null | array _ | object _ => none
  | bool b => some (if b then "true" else "false")
  | int n =>
    some (if Text.fitsWord n then toString n
      else Decimal.Layout.plain.text (.ofQuotient false n.toNat 1))
  | float x => some (Decimal.Layout.plain.text x)
  | string s => some s

namespace Given

/-- What a value from a file gives; an empty table gives nothing. -/
def ofData? (origin : Option String) : Data → Option Given
  | .object [] => none
  | .object _ => some table
  | .array _ => some (array origin)
  | v => some ((v.scalarText?.map scalar).getD (null origin))

/-- What is given for a key after one more entry. A path that leads on from the key makes it a table
or an array, and an array that is there keeps its place. -/
def assign (key : Key) (origin : Option String) (g : Given) (name : String) (value : Data) :
    Given :=
  let path := KeyPath.read name
  if path.root ≠ key.name then g
  else match path.steps, g with
    | .child _ :: _, _ => table
    | .index _ :: _, array place => array place
    | .index _ :: _, _ => array none
    | [], g => (ofData? origin value).getD g

def text? : Given → Option String
  | scalar text => some text
  | _ => none

end Given

/-- A layer: the names and values that it gives, and the file that they stand in. -/
structure Layer where
  origin : Option String := none
  entries : List (String × Data) := []

namespace Layer

/-- What is given for a key after a layer: its entries assign to the key one after another. Of several
entries for one key, in different spellings or with a path, the last one counts; their order is that in
which they were read, though nothing fixes it. -/
def assign (layer : Layer) (key : Key) (g : Given) : Given :=
  layer.entries.foldl (fun g e => g.assign key layer.origin e.1 e.2) g

/-- What the names of environment variables begin with, in any case. -/
def variableStart : String := "benchtable_"

/-- A name with a point for each pair of underscores. -/
def withPoints : List Char → List Char
  | '_' :: '_' :: s => '.' :: withPoints s
  | c :: s => c :: withPoints s
  | [] => []

/-- The name of a setting that an environment variable has: without its first part, in lower case,
and with a point for each pair of underscores. -/
def settingName? (variableName : String) : Option String :=
  let name := variableName.toLower.toList
  if variableStart.toList.isPrefixOf name then
    some (String.ofList (withPoints (name.drop variableStart.length)))
  else none

/-- The layer of the environment: values are texts, and empty ones count. -/
def ofEnvironment (env : Environment) : Layer where
  entries := env.filterMap fun (name, value) => (settingName? name).map (·, .string value)

end Layer

/-- A file whose text is refused, and in which words. -/
structure Refusal where
  file : String
  words : String

instance : Coe Refusal String := ⟨Refusal.file⟩

inductive SettingsError
  | malformed (refusal : Refusal)
  | wrongType (key : Key) (given : Given)
  | noFile (name : String)
  | unknownFormat (directory name : String)
  | unreadable (fault : Fault)

namespace SettingsError

def kindText : Given → String
  | .scalar _ => "value"
  | .null _ => "unit value"
  | .array _ => "sequence"
  | .table => "map"

/-- The file in which something stands, as a message names it. -/
def placeText : Given → String
  | .null (some file) | .array (some file) => " in " ++ file
  | _ => ""

def message : SettingsError → String
  | malformed refusal => refusal.words ++ " in " ++ refusal
  | wrongType key given =>
    "invalid type: " ++ kindText given ++ ", expected a string for key `" ++ key.name ++ "`" ++
      placeText given
  | noFile name => "configuration file \"" ++ name ++ "\" not found"
  | unknownFormat directory name =>
    "configuration file \"" ++ directory ++ "/" ++ name ++ "\" is not of a registered file format"
  | unreadable fault => fault.text

end SettingsError

namespace Settings

/-- What is given for a key by the default, then a file, then the environment. -/
def given (file environment : Layer) (key : Key) : Given :=
  environment.assign key (file.assign key (.scalar (default.get key)))

/-- The settings that win over all layers. Where a key has no scalar the error is about the first such key;
of several, any may be reported. -/
def ofLayers (file environment : Layer) : Except SettingsError Settings := do
  let text (key : Key) : Except SettingsError String :=
    match (given file environment key).text? with
    | some t => .ok t
    | none => .error (.wrongType key (given file environment key))
  let inputPath ← text .inputPath
  let summaryPath ← text .summaryPath
  let logLevel ← text .logLevel
  return ⟨inputPath, summaryPath, logLevel⟩

end Settings

end TimingTable
