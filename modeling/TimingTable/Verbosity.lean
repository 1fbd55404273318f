import TimingTable.Message
import TimingTable.Text.Column
import TimingTable.Text.Terminal

/-!
# Verbosity

A `Verbosity` says which messages a run shows: those of a level or graver, from the whole program or
only from the parts whose name starts with a given text. `Verbosity.read?` understands a level word
in any case, `part=level`, and `part` or `part=` for all messages of a part. Where a text asks for
nothing, or for something that is no level, errors are shown, and in the second case there is a
`complaint`.

A text is one directive here. The program takes several with commas between them, each for a part of its own,
and after a slash an expression that the text of a message has to match; neither is modelled, and a text with
a comma or a slash is read as if these were letters. Nor does an entry have the time at which it was written,
or the colours that can be asked for on a terminal.
-/

namespace TimingTable
open Text

/-- Which messages are shown; level 0 shows none. -/
structure Verbosity where
  level : Nat
  part : String := ""
deriving DecidableEq, Repr

namespace Verbosity

/-- Only errors, of the whole program. -/
def errors : Verbosity := ⟨Severity.error.rank, ""⟩

/-- The level that a word names, in any case. -/
def level? (word : String) : Option Nat :=
  let w := word.toLower
  if w = "off" then some 0
  else (Severity.all.find? fun s => s.word.toLower = w).map Severity.rank

/-- The verbosity that a text asks for, or the part of it that is not understood. The text is a single
directive: a list with commas and a filter after a slash are left out. -/
def read? (text : String) : Except String Verbosity :=
  let directive := trim text.toList
  match (directive.splitOn '=').map String.ofList with
  | [word] =>
    if word = "" then .ok errors
    else match level? word with
      | some level => .ok ⟨level, ""⟩
      | none => .ok ⟨Severity.trace.rank, word⟩
  | [part, word] =>
    let word := String.ofList (trim word.toList)
    if word = "" then .ok ⟨Severity.trace.rank, part⟩
    else match level? word with
      | some level => .ok ⟨level, part⟩
      | none => .error word
  | _ => .error (String.ofList directive)

/-- The verbosity that a text asks for; one that is not understood asks for errors. -/
def read (text : String) : Verbosity :=
  match read? text with
  | .ok v => v
  | .error _ => errors

/-- What is said about a text that is not understood. -/
def complaint (text : String) : String :=
  match read? text with
  | .ok _ => ""
  | .error part => "warning: invalid logging spec '" ++ part ++ "', ignoring it\n"

def shows (v : Verbosity) (m : Message) : Bool :=
  m.severity.rank ≤ v.level && v.part.toList.isPrefixOf m.source.toList

end Verbosity

namespace Message

/-- A message as an entry of the error stream: a line of its own, where the further lines of the
text are indented and nothing is left that a terminal takes as a command. The time that stands before the
severity is left out, and there are no colours, so `RUST_LOG_STYLE` and `CLICOLOR_FORCE` are never looked
at. -/
def entry (m : Message) : String :=
  let text := "\n    ".intercalate ((m.text.toList.splitOn '\n').map String.ofList)
  withoutControls ("[" ++ padRight 5 m.severity.word ++ " " ++ m.source ++ "] " ++ text ++ "\n")

end Message

end TimingTable
