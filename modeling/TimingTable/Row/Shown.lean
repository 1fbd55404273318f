import TimingTable.Row
import TimingTable.Text.Quoted
import TimingTable.Text.Shown

/-!
# Shown rows

`Row.shown` and `shownRows` show what a scan gave, with every field quoted.
-/

namespace TimingTable
open Text

def Row.shown (r : Row) : String :=
  shownStructure "BenchRecord" (Row.columns.zip (r.fields.map quoted))

def shownRows (rows : List Row) : String :=
  shownStructure "ParseResult" [("records", shownList (rows.map Row.shown))]

end TimingTable
