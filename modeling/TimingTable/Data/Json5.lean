import TimingTable.Data
import TimingTable.Decimal.Read
import TimingTable.Text.Blank
import TimingTable.Text.Letters

/-!
# Reading JSON5

`Json5.read?` reads a text by the JSON5 specification: JSON with comments, names without quotes, strings
between either kind of quote, commas after the last item, and more ways to write a number. Of two entries
with one name the later one counts. A number with a point or an exponent is a float and may not be too
large; any other is an integer of 64 bits. A number in hexadecimal has no sign and fits 32 bits, and the
words for what is no finite number have no plus sign. How deep values are nested is not bounded.
-/

namespace TimingTable.Json5
open Text Reader

/-- The characters at which a line ends. -/
def isLineEnd (c : Char) : Bool := c = '\n' || c = '\r' || c = '\u2028' || c = '\u2029'

/-- The characters that may stand between tokens. -/
def isSpace (c : Char) : Bool := (isBlank c && c ≠ '\u0085') || c = '\uFEFF'

def afterComment : List Char → Option (List Char)
  | '*' :: '/' :: s => some s
  | _ :: s => afterComment s
  | [] => none

def gap : Reader Unit := do
  let _ ← repeating do
    let _ ← takeWhile isSpace
    if ← literal? "//" then
      let _ ← takeWhile fun c => !isLineEnd c
      return some ()
    else if ← literal? "/*" then
      set (← (afterComment (← get) : Option (List Char)))
      return some ()
    else return none

/-- What a string or a name is made of: a character, or a code unit that was written in hexadecimal. -/
inductive Piece
  | char (c : Char)
  | unit (code : Nat)

/-- The characters of some pieces, where two code units may be a pair of surrogates. -/
def joinPieces : List Piece → Option (List Char)
  | [] => some []
  | .char c :: ps => do return c :: (← joinPieces ps)
  | .unit high :: .unit low :: ps =>
    if 0xD800 ≤ high ∧ high ≤ 0xDBFF then do
      guard (0xDC00 ≤ low ∧ low ≤ 0xDFFF)
      return (← charOfCode? (0x10000 + (high - 0xD800) * 0x400 + (low - 0xDC00))) :: (← joinPieces ps)
    else do return (← charOfCode? high) :: (← joinPieces (.unit low :: ps))
  | .unit code :: ps => do return (← charOfCode? code) :: (← joinPieces ps)

def hexDigits (count : Nat) : Reader Nat := fun s =>
  if s.length < count then none else (natIn? 16 (s.take count)).map (·, s.drop count)

/-- Reads what follows a backslash in a string; a line end adds nothing. -/
def escape : Reader (List Piece) := do
  match ← next with
  | 'b' => return [.char '\x08']
  | 'f' => return [.char '\x0c']
  | 'n' => return [.char '\n']
  | 'r' => return [.char '\r']
  | 't' => return [.char '\t']
  | 'v' => return [.char '\x0b']
  | '0' => return [.char '\x00']
  | 'x' => return [.char (Char.ofNat (← hexDigits 2))]
  | 'u' => return [.unit (← hexDigits 4)]
  -- a carriage return and a line feed are one line end
  | '\r' => let _ ← char? '\n'; return []
  | c =>
    guard !isDigit c
    return if isLineEnd c then [] else [.char c]

/-- Reads the rest of a string up to its closing quote. -/
def string (quote : Char) : Reader String := do
  let pieces ← repeating do
    let c ← next
    if c = quote then return none
    else if c = '\\' then return some (← escape)
    else
      guard (c ≠ '\n' ∧ c ≠ '\r')
      return some [.char c]
  return String.ofList (← (joinPieces pieces.flatten : Option (List Char)))

def startsName (c : Char) : Bool := isLetter c || c = '$' || c = '_'

def continuesName (c : Char) : Bool :=
  startsName c || inRanges joined c.toNat || c = '\u200C' || c = '\u200D'

/-- Reads a character of a name, if there is one more. It may be written in hexadecimal, and then it need
not be a letter. -/
def namePiece (p : Char → Bool) : Reader (Option Piece) := do
  if ← literal? "\\u" then return some (.unit (← hexDigits 4))
  match ← peek with
  | some c => if p c then let _ ← next; return some (.char c) else return none
  | none => return none

def name : Reader String := do
  match ← namePiece startsName with
  | none => failure
  | some first =>
    let more ← repeating (namePiece continuesName)
    return String.ofList (← (joinPieces (first :: more) : Option (List Char)))

def key : Reader String := do
  match ← peek with
  | some '"' => let _ ← next; string '"'
  | some '\'' => let _ ← next; string '\''
  | _ => name

/-- Reads a decimal number after its sign. It has no leading zero. -/
def decimal (negative : Bool) : Reader Data := do
  let text ← takeWhile1 fun c => isDigit c || ".eE+-".toList.contains c
  guard (text.head? ≠ some '0' ∨ !(text.drop 1).head?.any isDigit)
  if text.any (".eE".toList.contains ·) then
    let x ← (whole? (Decimal.unsigned negative) (String.ofList text) : Option Binary64)
    guard (x ≠ .infinite negative)
    return .float x
  else
    let n : Nat ← (natIn? 10 text : Option Nat)
    guard (fitsWord (signed negative n))
    return .int (signed negative n)

def number : Reader Data := do
  let minus ← char? '-'
  let plus ← if minus then pure false else char? '+'
  match ← peek with
  | some 'I' => guard !plus; literal "Infinity"; return .float (.infinite minus)
  | some 'N' => guard !plus; literal "NaN"; return .float .nan
  | _ =>
    if (← literal? "0x") || (← literal? "0X") then
      let n ← (natIn? 16 (← takeWhile fun c => (digitIn? 16 c).isSome) : Option Nat)
      guard (!minus && !plus && n < 0x100000000)
      return .int n
    else decimal minus

def entry (value : Reader Data) : Reader (String × Data) := do
  let name ← key
  gap
  char ':'
  gap
  return (name, ← value)

/-- Reads a value in which arrays and objects are nested less deeply than the bound. -/
def value : Nat → Reader Data
  | 0 => failure
  | depth + 1 => do
    match ← peek with
    | some '"' => let _ ← next; return .string (← string '"')
    | some '\'' => let _ ← next; return .string (← string '\'')
    | some '[' => let _ ← next; return .array (← itemsUpTo ']' gap (value depth))
    | some '\x7b' =>
      let _ ← next
      let entries ← itemsUpTo '\x7d' gap (entry (value depth))
      return .object (entries.foldl (fun es e => Data.put es e.1 e.2) [])
    | some 't' => literal "true"; return .bool true
    | some 'f' => literal "false"; return .bool false
    | some 'n' => literal "null"; return .null
    | _ => number

def read? (text : String) : Option Data :=
  whole? (do gap; let v ← value (text.length + 1); gap; return v) text

end TimingTable.Json5
