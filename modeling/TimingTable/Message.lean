import TimingTable.Scan
import TimingTable.Settings

/-!
# Messages

What a run tells about itself. A message knows its cause; its severity, the part of the program that
it comes from and its wording follow from that. `Finding.message?` gives the message about a finding
of a scan: rows are not announced one by one.
-/

namespace TimingTable
open Text

/-- How grave a message is, the gravest first. -/
inductive Severity
  | error
  | warn
  | info
  | debug
  | trace
deriving DecidableEq, Repr

namespace Severity

/-- The place of a severity, counted from the gravest. -/
def rank : Severity → Nat
  | error => 1
  | warn => 2
  | info => 3
  | debug => 4
  | trace => 5

def word : Severity → String
  | error => "ERROR"
  | warn => "WARN"
  | info => "INFO"
  | debug => "DEBUG"
  | trace => "TRACE"

/-- All severities. -/
def all : List Severity := [error, warn, info, debug, trace]

end Severity

inductive Message
  | headerOn (line : Nat)
  | closedOn (line : Nat)
  | skipped (line : Nat) (text : String)
  | parsed (count : Nat) (path : String)
  | written (path : String)
  | settings (settings : Settings)
  | failure (text : String)
deriving DecidableEq, Repr

namespace Message

def severity : Message → Severity
  | headerOn _ | closedOn _ => .trace
  | skipped .. | settings _ => .debug
  | parsed .. | written _ => .info
  | failure _ => .error

def source : Message → String
  | headerOn _ | closedOn _ | skipped .. => "benchtable::bench_log::parser"
  | parsed .. | written _ => "benchtable::bench_log::report"
  | settings _ | failure _ => "benchtable::report_cli"

def text : Message → String
  | headerOn n => "Header trigger on line " ++ toString n
  | closedOn n => "Table closed by blank line " ++ toString n
  | skipped n t => "Skipping line " ++ toString n ++ ": " ++ quoted t
  | parsed count path => "Parsed " ++ toString count ++ " benchmark records from " ++ path
  | written path => "Summary written to " ++ path
  | settings s => "Using configuration: " ++ s.shown
  | failure t => t

def line (m : Message) : String := m.severity.word ++ " " ++ m.text

end Message

def Finding.message? : Finding → Option Message
  | header n => some (.headerOn n)
  | row .. => none
  | skipped n text => some (.skipped n text)
  | closed n => some (.closedOn n)

def scanMessages (log : String) : List Message := (scan log).filterMap Finding.message?

end TimingTable
