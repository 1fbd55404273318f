import TimingTable.Row

/-!
# Lines of a log

`Line.read` says what a line of a benchmark log is to the table in it. The tests come in a fixed
order: a line with both header words is a header wherever it stands; then a blank line; then a line
without a bar, which is prose; and a line with a bar is a row or is rejected. A word stands in a
line as an infix of it (`hasWord_iff`).
-/

namespace TimingTable
open Text

/-- What a line is to the table. -/
inductive Line
  | header
  | blank
  | prose
  | row (row : Row)
  | rejected (text : String)
deriving DecidableEq, Repr

/-- Whether a word stands anywhere in a line. -/
def hasWord (word : List Char) : List Char → Bool
  | [] => word.isEmpty
  | c :: line => word.isPrefixOf (c :: line) || hasWord word line

theorem hasWord_iff {word line : List Char} : hasWord word line = true ↔ word <:+: line := by
  induction line with
  | nil => simp [hasWord]
  | cons c line ih => simp [hasWord, ih, List.infix_cons_iff]

/-- Whether a line has both words that announce a table, anywhere in it. -/
def isHeader (line : List Char) : Bool :=
  hasWord "Runtime".toList line && hasWord "Min".toList line

/-- Reads one line; a rejected one keeps its trimmed text. -/
def Line.read (line : List Char) : Line :=
  let text := trim line
  if isHeader line then .header
  else if text = [] then .blank
  else if '|' ∉ text then .prose
  else match Row.ofLine? text with
    | some r => .row r
    | none => .rejected (String.ofList text)

end TimingTable
