import TimingTable.Report.Run
import TimingTable.Settings.Load
import TimingTable.Verbosity

/-!
# Commands

The two commands of the program: one prints the report of a log, the other writes its summary and
prints the report where there are rows. `Command.trace` is all that a command does, with every
message that it could show; `Command.run` is what is seen of it: a complaint where it is not clear
how much to tell, the messages that the verbosity lets through, the report, and on failure one line
that says why.

## What is left open, and what is left out

`Formats` leaves open what a run does not fix: the order in which the formats of settings files are tried, and
the words of a parser about a text that it refuses. Which of two spellings of one key counts, and which of
several wrong keys is reported, is not fixed either; there the order of the entries and of the keys is taken
(`Layer.assign`, `Settings.ofLayers`).

Left out are several directives and a filter in the text for the verbosity (`Verbosity.read?`), the time and
the colours of an entry (`Message.entry`), the switches of RON for parts of its notation and the bounds of RON
and JSON5 on how deep values are nested (`Ron.read?`, `Json5.read?`), and of the files all but their names and
bytes: links, permissions, space, and changes by others in the middle of a run (`Store`).
-/

namespace TimingTable

inductive Command
  | output
  | summary
deriving DecidableEq, Repr

/-- What a command does: the text that it prints or why it fails, its messages, and the store that
it leaves. -/
structure Trace where
  outcome : Except String String
  messages : List Message
  store : Store

structure Outcome where
  exitCode : Nat
  stdout : String
  stderr : String
  store : Store

namespace Command

/-- The run of a command with settings; a summary without rows prints nothing. -/
def report : Command → Settings → Store → Run String
  | output, settings, s => consoleRun settings s
  | summary, settings, s =>
    (summaryRun settings s).andThen fun table s => ⟨.ok (table.getD ""), [], s⟩

def verbosityVariable : String := "RUST_LOG"

variable [Formats]

def trace (c : Command) (env : Environment) (s : Store) : Trace :=
  match Settings.load s env with
  | .error e => ⟨.error e.message, [.failure e.message], s⟩
  | .ok settings =>
    let r := c.report settings s
    match r.result with
    | .error e =>
      ⟨.error e.message, .settings settings :: r.messages ++ [.failure e.message], r.store⟩
    | .ok text => ⟨.ok text, .settings settings :: r.messages, r.store⟩

/-- The text that says how much a command tells: the one in the environment, else the one in the
settings, else the default. -/
def verbosityText (env : Environment) (s : Store) : String :=
  match env.lookup verbosityVariable with
  | some text => text
  | none =>
    match Settings.load s env with
    | .ok settings => settings.logLevel
    | .error _ => Settings.default.logLevel

def verbosity (env : Environment) (s : Store) : Verbosity := .read (verbosityText env s)

def run (c : Command) (env : Environment) (s : Store) : Outcome :=
  let t := c.trace env s
  let entries := (t.messages.filter (verbosity env s).shows).map Message.entry
  let shown := Verbosity.complaint (verbosityText env s) ++ String.join entries
  match t.outcome with
  | .ok text => ⟨0, text, shown, t.store⟩
  | .error message => ⟨1, "", shown ++ "Error: " ++ message ++ "\n", t.store⟩

end Command

end TimingTable
