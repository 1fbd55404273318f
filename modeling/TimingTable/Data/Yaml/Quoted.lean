import TimingTable.Data.Yaml.Lexer
import TimingTable.Text.Digits

/-!
# Quoted scalars of YAML

A scalar between single quotes, in which a quote is written twice, or between double quotes, in
which a backslash begins an escape. Line breaks are folded together with the blanks around them, and
every further line has to be indented as its level says.
-/

namespace TimingTable.Yaml
open Text Scan

/-- Reads a character by so many hexadecimal digits of its code point. -/
def charByCode (count : Nat) : Scan Char := do
  let digits := (← rest).take count
  guard (digits.length = count)
  let code ← (natIn? 16 digits : Option Nat)
  modify fun s =>
    { s with rest := s.rest.drop count, column := s.column + count, inIndent := false }
  (charOfCode? code : Option Char)

def escape : Scan Char := do
  match ← next with
  | '0' => return '\x00'
  | 'a' => return '\x07'
  | 'b' => return '\x08'
  | 't' | '\t' => return '\t'
  | 'n' => return '\n'
  | 'v' => return '\x0b'
  | 'f' => return '\x0c'
  | 'r' => return '\r'
  | 'e' => return '\x1b'
  | ' ' => return ' '
  | '"' => return '"'
  | '/' => return '/'
  | '\\' => return '\\'
  | 'N' => return '\u0085'
  | '_' => return '\u00a0'
  | 'L' => return '\u2028'
  | 'P' => return '\u2029'
  | 'x' => charByCode 2
  | 'u' => charByCode 4
  | 'U' => charByCode 8
  | _ => failure

/-- Reads the characters up to a blank, a line end, a backslash before a line end, or the closing
quote. -/
def quotedRun (quote : Char) : Scan (List Char) :=
  repeating do
    match ← rest with
    | [] => return none
    | c :: s =>
      if isBlankHere c || c = '\n' then return none
      else if c = '\'' && quote = '\'' then
        if s.head? = some '\'' then
          let _ ← next
          return some (← next)
        else return none
      else if c = quote then return none
      else if c = '\\' && quote = '"' then
        if s.head? = some '\n' then return none
        let _ ← next
        return some (← escape)
      else return some (← next)

/-- Passes over line ends and the blanks after them, and gives the number of line ends. A tab may
not be part of an indentation that is too small. -/
def quotedBreaks : Scan Nat := do
  let ends ← repeating do
    match ← peek with
    | some '\n' => let _ ← next; return some true
    | some ' ' => let _ ← next; return some false
    | some '\t' =>
      guard ((← column) ≥ (← get).indent)
      let _ ← next
      return some false
    | _ => return none
  return ends.countP id

/-- Whether a run was ended by a backslash before a line end. -/
def endsBroken (quote : Char) (s : List Char) : Bool :=
  quote = '"' && "\\\n".toList.isPrefixOf s

def quotedRest (quote : Char) : Nat → Scan (List Char)
  | 0 => failure
  | bound + 1 => do
    let s ← get
    guard (s.rest ≠ [] ∧ s.column ≥ s.indent)
    guard !(s.column = 0 && startsMarker s.rest)
    let run ← quotedRun quote
    if endsBroken quote (← rest) then
      let _ ← next
      let _ ← next
      if ← char? quote then return run
      let count ← quotedBreaks
      return run ++ List.replicate count '\n' ++ (← quotedRest quote bound)
    else if ← char? quote then return run
    else
      let blanks ← takeWhile isBlankHere
      let count ← quotedBreaks
      let joint := if count = 0 then blanks else foldedBreaks count
      return run ++ joint ++ (← quotedRest quote bound)

/-- Whether a text may follow a quoted scalar that began on a given line. Outside of brackets a key
may not go over several lines. -/
def followsQuoted (startLine : Nat) : Scan Bool := do
  match ← peek with
  | none | some '\n' => return true
  | some ':' => return (← inFlow) || startLine = (← get).line
  | some c => return (← inFlow) && (c = ',' || c = ']' || c = '\x7d')

def quotedText (quote : Char) : Scan String := do
  let startLine := (← get).line
  let _ ← next
  let text ← quotedRest quote ((← rest).length + 1)
  let _ ← lineBlanks
  guard (← followsQuoted startLine)
  return String.ofList text

end TimingTable.Yaml
