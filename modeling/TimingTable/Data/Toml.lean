import TimingTable.Data.Toml.Number
import TimingTable.Data.Toml.Tree
import TimingTable.Data.Toml.Word

/-!
# Reading TOML

`Toml.read?` reads a document of TOML 1.0: statements on lines of their own, which are pairs of a
dotted key and a value, headers of tables, and headers of arrays of tables. Dates and times become
strings.
-/

namespace TimingTable.Toml
open Text Reader

/-- Splits a dotted key into the names before the last one and the last one. -/
def splitKey (names : List String) : Option (List String × String) :=
  names.getLast?.map (names.dropLast, ·)

/-- Reads the rest of an array, with a given reader for its items. -/
def array (value : Reader Data) : Reader (List Data) :=
  repeating do
    gap
    if ← char? ']' then return none
    let v ← value
    gap
    if !(← char? ',') then
      guard ((← peek) = some ']')
    return some v

def pair (value : Reader Data) : Reader (List String × Data) := do
  let names ← key
  char '='
  blanks
  return (names, ← value)

/-- Reads the rest of a table on one line, with a given reader for its values. -/
def inlineTable (value : Reader Data) : Reader Data := do
  blanks
  if ← char? '\x7d' then return .object []
  let first ← pair value
  let more ← repeating do
    blanks
    match ← next with
    | ',' => return some (← pair value)
    | c => guard (c = '\x7d'); return none
  let entries ← ((first :: more).foldlM (fun es (names, v) => do
    let (path, name) ← splitKey names
    Tree.add path name v es) [] : Option (List (String × Tree)))
  return .object (Tree.entriesToData entries)

def scalar : Reader Data := do
  match ← peek with
  | some '"' =>
    if ← literal? "\"\"\"" then return .string (← longString '"' true)
    let _ ← next
    return .string (← basicString)
  | some '\'' =>
    if ← literal? "'''" then return .string (← longString '\'' false)
    let _ ← next
    return .string (← literalString)
  | some 't' => literal "true"; return .bool true
  | some 'f' => literal "false"; return .bool false
  | some 'i' | some 'n' | some '+' | some '-' => decimalNumber
  | _ => numberOrMoment

/-- Reads a value in which arrays and tables are nested less deeply than the bound. -/
def value : Nat → Reader Data
  | 0 => failure
  | depth + 1 => do
    match ← peek with
    | some '[' => guard (depth ≠ 0); let _ ← next; return .array (← array (value depth))
    | some '\x7b' => guard (depth ≠ 0); let _ ← next; inlineTable (value depth)
    | _ => scalar

inductive Statement
  | pair (names : List String) (v : Data)
  | table (names : List String)
  | item (names : List String)

/-- Reads a statement, and the rest of its line. -/
def statement : Reader Statement := do
  let s ←
    if ← literal? "[[" then do
      let names ← key
      literal "]]"
      pure (Statement.item names)
    else if ← char? '[' then do
      let names ← key
      char ']'
      pure (Statement.table names)
    else do
      let (names, v) ← pair (value depthBound)
      pure (Statement.pair names v)
  blanks
  comment
  guard ((← lineEnd?) || (← left) = 0)
  return s

/-- The entries of a document and the header that its next pairs are under. -/
abbrev Document := List String × List (String × Tree)

def Document.add (d : Document) : Statement → Option Document
  | .pair names v => do
    let (path, name) ← splitKey names
    return (d.1, ← Tree.addUnder d.1 path name v d.2)
  | .table names => do
    let (path, name) ← splitKey names
    return (names, ← Tree.openTable path name d.2)
  | .item names => do
    let (path, name) ← splitKey names
    return (names, ← Tree.openItem path name d.2)

def statements : Reader (List Statement) :=
  repeating do
    gap
    if (← left) = 0 then return none
    return some (← statement)

/-- The entries of the table that a document is; a mark of the byte order before it is no part of
it. -/
def read? (text : String) : Option (List (String × Data)) := do
  let all ← whole? (do let _ ← literal? "\uFEFF"; statements) text
  let d ← all.foldlM Document.add (([], []) : Document)
  return Tree.entriesToData d.2

end TimingTable.Toml
