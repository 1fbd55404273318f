import TimingTable.Report.Console
import TimingTable.Report.Markdown
import TimingTable.Scan

/-!
# Rounds

A report is a text with a table in it, so it can be read as a log again. A round reads the current
text and replaces it by a report of the rows found. The last text that `rounds` lists is the text
after all of them (`getLast?_rounds`).
-/

namespace TimingTable

inductive Form
  | console
  | markdown
deriving DecidableEq, Repr

def Form.render : Form → List Row → String
  | console => Console.render
  | markdown => Markdown.render

def afterRounds (text : String) (forms : List Form) : String :=
  forms.foldl (fun t form => form.render (parse t)) text

/-- For each round the number of rows that it read and the text that it wrote. -/
def rounds (text : String) : List Form → List (Nat × String)
  | [] => []
  | form :: forms =>
    let rows := parse text
    (rows.length, form.render rows) :: rounds (form.render rows) forms

theorem getLast?_rounds (text : String) (form : Form) (forms : List Form) :
    ((rounds text (form :: forms)).getLast?).map (·.2) =
      some (afterRounds text (form :: forms)) := by
  induction forms generalizing text form with
  | nil => rfl
  | cons next forms ih =>
    rw [rounds, rounds, List.getLast?_cons_cons]
    exact ih (form.render (parse text)) next

end TimingTable
