import TimingTable.Row
import TimingTable.Text.Lines

/-!
# The markdown report

A section for a summary file. The fields of a row are written as they are, and a report without
rows still has its heading, its header and its count.
-/

namespace TimingTable.Markdown
open Text

def heading : String := "## Performance Benchmarks"

def rowLine (r : Row) : String :=
  "| " ++ r.runtime ++ " | " ++ r.min ++ " | " ++ r.max ++ " | " ++ r.avg ++ " |"

/-- The lines before the first row. -/
def head : List String :=
  ["", heading, "", "| Runtime | Min | Max | Avg |", "|--------|-----|-----|-----|"]

/-- The lines after the last of `count` rows. -/
def foot (count : Nat) : List String := ["", "**Total runtimes tested:** " ++ toString count]

def render (rows : List Row) : String := unlines (head ++ rows.map rowLine ++ foot rows.length)

end TimingTable.Markdown
