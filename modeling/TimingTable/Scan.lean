import TimingTable.Line
import TimingTable.Text.Lines

/-!
# Scanning a log for its table

The table of a log starts after its first header line and ends at the first blank line after that,
or with the log. `scan` goes through the lines once and gives the findings in the order of their
lines, which are counted from 1; `parse` keeps the rows. A header line inside the table is a finding
of its own, prose is none, and nothing is found after the line that closes the table.
-/

namespace TimingTable
open Text

/-- What a scan finds on a line. -/
inductive Finding
  | header (line : Nat)
  | row (line : Nat) (row : Row)
  | skipped (line : Nat) (text : String)
  | closed (line : Nat)
deriving DecidableEq, Repr

namespace Finding

def line : Finding → Nat
  | header n | row n _ | skipped n _ | closed n => n

/-- The row found, if it is one. -/
def row? : Finding → Option Row
  | row _ r => some r
  | _ => none

end Finding

/-- The findings inside the table, where `n` is the number of the next line. -/
def scanTable (n : Nat) : List (List Char) → List Finding
  | [] => []
  | line :: rest =>
    match Line.read line with
    | .header => .header n :: scanTable (n + 1) rest
    | .blank => [.closed n]
    | .prose => scanTable (n + 1) rest
    | .row row => .row n row :: scanTable (n + 1) rest
    | .rejected text => .skipped n text :: scanTable (n + 1) rest

/-- The findings of a log whose table has not started, where `n` is the number of the next line. -/
def seekTable (n : Nat) : List (List Char) → List Finding
  | [] => []
  | line :: rest =>
    if isHeader line then .header n :: scanTable (n + 1) rest else seekTable (n + 1) rest

def scan (log : String) : List Finding := seekTable 1 (lines log.toList)

/-- The rows of the table in a log, in the order of their lines. -/
def parse (log : String) : List Row := (scan log).filterMap Finding.row?

end TimingTable
