import TimingTable.Text.Digits
import TimingTable.Text.Reader

/-!
# Words of TOML

What a document of TOML is made of below its values: blanks, comments and line ends, strings on one
line and over several lines, and dotted keys.
-/

namespace TimingTable.Toml
open Text Reader

def isBlankHere (c : Char) : Bool := c = ' ' || c = '\t'

def blanks : Reader Unit := do
  let _ ← takeWhile isBlankHere

/-- The characters of names without quotes. -/
def isBare (c : Char) : Bool :=
  isDigit c || ('a' ≤ c && c ≤ 'z') || ('A' ≤ c && c ≤ 'Z') || c = '_' || c = '-'

/-- The characters that strings and comments can have as they are; a tab is one of them. -/
def isPlain (c : Char) : Bool := c = '\t' || (0x20 ≤ c.toNat && c.toNat ≠ 0x7F)

/-- Takes the end of a line, and says whether there was one. -/
def lineEnd? : Reader Bool := fun s =>
  match s with
  | '\n' :: r => some (true, r)
  | '\r' :: '\n' :: r => some (true, r)
  | s => some (false, s)

/-- Passes over a comment, if there is one. -/
def comment : Reader Unit := do
  if ← char? '#' then
    let _ ← takeWhile isPlain

/-- Passes over blanks, comments and line ends. -/
def gap : Reader Unit := do
  let _ ← repeating do
    blanks
    comment
    return if ← lineEnd? then some () else none

def escape : Reader Char := do
  let coded (count : Nat) : Reader Char := fun s =>
    if s.length < count then none
    else do return (← charOfCode? (← natIn? 16 (s.take count)), s.drop count)
  match ← next with
  | 'b' => return '\x08'
  | 't' => return '\t'
  | 'n' => return '\n'
  | 'f' => return '\x0c'
  | 'r' => return '\r'
  | '"' => return '"'
  | '\\' => return '\\'
  | 'u' => coded 4
  | 'U' => coded 8
  | _ => failure

/-- Reads the rest of a string on one line. -/
def basicString : Reader String := do
  let cs ← repeating do
    match ← next with
    | '"' => return none
    | '\\' => return some (← escape)
    | c => guard (isPlain c); return some c
  return String.ofList cs

/-- Reads the rest of a string without escapes on one line. -/
def literalString : Reader String := do
  let cs ← takeWhile fun c => isPlain c && c ≠ '\''
  char '\''
  return String.ofList cs

/-- After three quotes that can close a string: one or two more belong to the string. -/
def moreQuotes (quote : Char) : Reader (List Char) := do
  if ← char? quote then
    if ← char? quote then return [quote, quote] else return [quote]
  else return []

/-- Takes the quotes that close a string over several lines, and gives those that belong to it. -/
def closing (quote : Char) : Reader (List Char) := do
  literal (String.ofList [quote, quote, quote])
  moreQuotes quote

/-- Takes a line end after a backslash and the blanks and line ends that follow it, if a line end is
next. -/
def brokenLine? : Reader Bool := fun s =>
  match (do blanks; guard (← lineEnd?) : Reader Unit) s with
  | some (_, r) => some (true, r.dropWhile fun c => isBlankHere c || c = '\n' || c = '\r')
  | none => some (false, s)

def longPart (escapes : Bool) : Reader (List Char) := do
  if ← lineEnd? then return ['\n']
  let c ← next
  if c = '\\' && escapes then
    if ← brokenLine? then return [] else return [← escape]
  else
    guard (isPlain c)
    return [c]

/-- Reads the rest of a string over several lines. A line end is read as a line feed, and one right
at the start is no part of the string. A backslash at the end of a line takes away the blanks and
line ends that follow it. -/
def longString (quote : Char) (escapes : Bool) : Reader String := do
  let _ ← lineEnd?
  let body ← repeating do
    if ← follows (closing quote) then return none else return some (← longPart escapes)
  return String.ofList (body.flatten ++ (← closing quote))

def simpleKey : Reader String := do
  match ← peek with
  | some '"' => let _ ← next; basicString
  | some '\'' => let _ ← next; literalString
  | _ => return String.ofList (← takeWhile1 isBare)

/-- The least number of names that is too many for a dotted key, and the least depth that is too
deep for a value. -/
def depthBound : Nat := 80

def key : Reader (List String) := do
  blanks
  let first ← simpleKey
  blanks
  let more ← repeating do
    if ← char? '.' then
      blanks
      let name ← simpleKey
      blanks
      return some name
    else return none
  guard (more.length + 1 < depthBound)
  return first :: more

end TimingTable.Toml
