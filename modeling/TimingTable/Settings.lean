import TimingTable.Decode
import TimingTable.Text.Shown

/-!
# Settings

The three settings of a run: the log to read, the summary to write, and how much to tell about it.
-/

namespace TimingTable
open Text

structure Settings where
  inputPath : String := "bench-output.log"
  summaryPath : String := "bench-summary.md"
  logLevel : String := "warn"
deriving DecidableEq, Repr

inductive Key
  | inputPath
  | summaryPath
  | logLevel
deriving DecidableEq, Repr

namespace Key

/-- The keys in the order in which they are looked at. -/
def all : List Key := [inputPath, summaryPath, logLevel]

def name : Key → String
  | inputPath => "input_path"
  | summaryPath => "summary_path"
  | logLevel => "log_level"

end Key

namespace Settings

/-- What is set where nothing else is said. -/
def default : Settings := {}

def get (s : Settings) : Key → String
  | .inputPath => s.inputPath
  | .summaryPath => s.summaryPath
  | .logLevel => s.logLevel

def shown (s : Settings) : String :=
  shownStructure "BenchTableConfig" [(Key.inputPath.name, quoted s.inputPath),
    (Key.summaryPath.name, quoted s.summaryPath), (Key.logLevel.name, quoted s.logLevel)]

def decode : Decoder Settings := fun v => do
  let field (k : Key) : Decoder.Field String :=
    ⟨k.name, Decoder.string (if k = .logLevel then .text else .path)⟩
  match ← Decoder.structured "BenchTableConfig" (Key.all.map field) v with
  | [inputPath, summaryPath, logLevel] => .ok ⟨inputPath, summaryPath, logLevel⟩
  | _ => .error (.wrongType v (.structure "BenchTableConfig"))

end Settings

end TimingTable
