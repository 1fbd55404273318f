import TimingTable.Row
import TimingTable.Text.Column
import TimingTable.Text.Lines

/-!
# The console report

A table with fixed column widths for the terminal: a text that is wider than its column is written
in full and moves the bars after it. Without rows there is no table but the line `noResults`.
-/

namespace TimingTable.Console
open Text

/-- What stands in place of a table without rows. -/
def noResults : String := "No benchmark results found"

/-- The width of the first column. -/
def runtimeWidth : Nat := 7

def timeWidth : Nat := 5

def rowLine (r : Row) : String :=
  "| " ++ padRight runtimeWidth r.runtime ++ " | " ++ padRight timeWidth r.min ++ " | " ++
    padRight timeWidth r.max ++ " | " ++ padRight timeWidth r.avg ++ " |"

/-- The lines before the first row. -/
def head : List String :=
  ["", "| Runtime | Min   | Max   | Avg   |", "|---------|-------|-------|-------|"]

/-- The lines after the last of `count` rows. -/
def foot (count : Nat) : List String := ["", "Total: " ++ toString count ++ " runtimes tested"]

def render (rows : List Row) : String :=
  if rows = [] then unlines [noResults]
  else unlines (head ++ rows.map rowLine ++ foot rows.length)

end TimingTable.Console
