import TimingTable.Message
import TimingTable.Report.Console
import TimingTable.Report.Markdown
import TimingTable.Store.Path

/-!
# Runs

A run works on a store and has a result, the messages that it gave on its way, and the store that it
leaves. `loadRun` reads the rows of a log, `consoleRun` reports them, and `summaryRun` writes the
markdown report first. Only `summaryRun` changes the store, and only where it can write the summary.
-/

namespace TimingTable

inductive ReportError
  | missingLog (path : String)
  | unreadable (path : String) (fault : Fault)
  | unwritable (path : String) (fault : Fault)
deriving DecidableEq, Repr

namespace ReportError

/-- A log that is not there is told apart from one that cannot be read. -/
def ofRead (path : String) : Fault → ReportError
  | .notFound => missingLog path
  | fault => unreadable path fault

def path : ReportError → String
  | missingLog p | unreadable p _ | unwritable p _ => p

/-- The fault behind the error, where it is told. -/
def fault? : ReportError → Option Fault
  | missingLog _ => none
  | unreadable _ f | unwritable _ f => some f

def message : ReportError → String
  | missingLog p => "Benchmark log not found: " ++ p
  | unreadable p f => "Failed to read " ++ p ++ ": " ++ f.text
  | unwritable p f => "Failed to write " ++ p ++ ": " ++ f.text

end ReportError

structure Run (α : Type) where
  result : Except ReportError α
  messages : List Message
  store : Store

namespace Run
variable {α β : Type}

/-- A run and, where it has a value, the next run from the store that it leaves. -/
def andThen (r : Run α) (next : α → Store → Run β) : Run β :=
  match r.result with
  | .error e => ⟨.error e, r.messages, r.store⟩
  | .ok a =>
    let r' := next a r.store
    ⟨r'.result, r.messages ++ r'.messages, r'.store⟩

end Run

def loadRun (path : String) (s : Store) : Run (List Row) :=
  match s.readText path with
  | .error fault => ⟨.error (.ofRead path fault), [], s⟩
  | .ok log =>
    let rows := parse log
    ⟨.ok rows, scanMessages log ++ [.parsed rows.length path], s⟩

def writeRun (path : String) (rows : List Row) (s : Store) : Run Unit :=
  match s.write path (Markdown.render rows).toUTF8 with
  | .error fault => ⟨.error (.unwritable path fault), [], s⟩
  | .ok s' => ⟨.ok (), [.written path], s'⟩

def consoleRun (settings : Settings) (s : Store) : Run String :=
  (loadRun settings.inputPath s).andThen fun rows s => ⟨.ok (Console.render rows), [], s⟩

/-- Writes the summary; the report for the terminal is given only where there are rows. -/
def summaryRun (settings : Settings) (s : Store) : Run (Option String) :=
  (loadRun settings.inputPath s).andThen fun rows s =>
    (writeRun settings.summaryPath rows s).andThen fun _ s =>
      ⟨.ok (if rows = [] then none else some (Console.render rows)), [], s⟩

end TimingTable
