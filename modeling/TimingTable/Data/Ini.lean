import TimingTable.Data
import TimingTable.Text.Blank
import TimingTable.Text.Digits
import TimingTable.Text.Reader

/-!
# Reading INI files

`Ini.read?` reads pairs of a key and a value, sections in brackets, and comments, which have to
start in the first column of a line. Values are strings. Keys and the names of sections may go over
line ends. The pairs before the first section stand at the top, and each section is a table; of two
pairs or sections with one name the later counts.
-/

namespace TimingTable.Ini
open Text Reader

/-- Reads what follows a backslash; a line end adds nothing. -/
def escape : Reader (List Char) := do
  match ← next with
  | '0' => return ['\x00']
  | 'a' => return ['\x07']
  | 'b' => return ['\x08']
  | 't' => return ['\t']
  | 'r' => return ['\r']
  | 'n' => return ['\n']
  | '\n' => return []
  | 'x' =>
    let s ← get
    guard (4 ≤ s.length)
    let digits := s.take 4
    let code ← (natIn? 16 (if digits.head? = some '+' then digits.drop 1 else digits) : Option Nat)
    let c ← (charOfCode? code : Option Char)
    set (s.drop 4)
    return [c]
  | c => return [c]

/-- Reads up to one of the given characters, which stays. Where the text ends first, it is refused
unless `endToo` allows the end. -/
def upTo (stops : List Char) (endToo : Bool) : Reader (List Char) := do
  let parts ← repeating do
    match ← peek with
    | none => guard endToo; return none
    | some c =>
      if c ∈ stops then return none
      let _ ← next
      if c = '\\' then return some (← escape) else return some [c]
  return parts.flatten

/-- Reads a text between quotes, or nothing if no quote is next. -/
def quotedPart : Reader (List Char) := do
  match ← peek with
  | some '"' => let _ ← next; let s ← upTo ['"'] false; let _ ← next; return s
  | some '\'' => let _ ← next; let s ← upTo ['\''] false; let _ ← next; return s
  | _ => return []

/-- Reads a value up to the end of its line: it may begin with a quoted text, and blanks at its ends
are no part of it, also where they were quoted. -/
def value : Reader String := do
  let _ ← takeWhile fun c => isBlank c && c ≠ '\n' && c ≠ '\r'
  let first ← quotedPart
  let rest ← upTo ['\n', '\r'] true
  return String.ofList (trim (first ++ rest))

inductive Item
  | comment
  | section (name : String)
  | pair (key value : String)

/-- Reads an item, if there is one more; `atStart` says whether it stands at the start of a line. -/
def item (atStart : Bool) : Reader (Option Item) := do
  match ← peek with
  | none => return none
  | some ';' | some '#' =>
    guard atStart
    let _ ← takeWhile (· ≠ '\n')
    return some .comment
  | some '[' =>
    let _ ← next
    let name ← upTo [']'] false
    let _ ← next
    return some (.section (String.ofList (trim name)))
  | some _ =>
    let name := trim (← upTo ['=', ':'] false)
    guard (name ≠ [])
    let _ ← next
    return some (.pair (String.ofList name) (← value))

/-- Passes over blanks and line ends and reads an item; `atTop` says whether nothing was read
before. -/
def nextItem (atTop : Bool) : Reader (Option Item) := do
  let passed ← takeWhile isBlank
  item (if passed = [] then atTop else passed.getLast? = some '\n')

def items : Reader (List Item) := do
  let first ← nextItem true
  let more ← repeating (nextItem false)
  return first.toList ++ more

/-- The table at the top and the sections so far, the current one last. -/
structure Sections where
  top : List (String × Data) := []
  sections : List (String × List (String × Data)) := []

def Sections.add (s : Sections) : Item → Sections
  | .comment => s
  | .section name => { s with sections := s.sections ++ [(name, [])] }
  | .pair key value =>
    match s.sections.getLast? with
    | none => { s with top := Data.put s.top key (.string value) }
    | some (name, entries) =>
      let entries := Data.put entries key (.string value)
      { s with sections := s.sections.dropLast ++ [(name, entries)] }

def read? (text : String) : Option (List (String × Data)) := do
  let all ← whole? items text
  let s := all.foldl Sections.add {}
  return s.sections.foldl (fun es (name, entries) => Data.put es name (.object entries)) s.top

end TimingTable.Ini
