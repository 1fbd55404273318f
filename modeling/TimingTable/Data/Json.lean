import TimingTable.Data
import TimingTable.Text.Digits
import TimingTable.Text.Reader

/-!
# Reading JSON

`Json.read?` reads a text by RFC 8259. Of two entries with one key the later one counts, and values
are nested at most 127 deep. A number without fraction and exponent that fits 64 bits is an
integer, except for `-0`. Any other number is a float, computed in two steps: the significand keeps
its leading digits as long as they fit 64 bits, and is then multiplied or divided by a power of ten
(`Json.scale?`), so the last bit may differ from that of the nearest float. A number too large for
a float is refused.
-/

namespace TimingTable.Json
open Text Reader

/-- The characters that may stand between tokens. -/
def isSpace (c : Char) : Bool := c = ' ' || c = '\t' || c = '\n' || c = '\r'

def space : Reader Unit := do
  let _ ← takeWhile isSpace

/-- The bound of unsigned words of 64 bits. -/
def wordBound : Nat := 0x10000000000000000

/-- Adds digits to a number while it fits 64 bits, and gives the digits that are left. -/
def absorb (n : Nat) : List Char → Nat × List Char
  | [] => (n, [])
  | c :: digits =>
    let m := 10 * n + (c.toNat - '0'.toNat)
    if m < wordBound then absorb m digits else (n, c :: digits)

/-- The float for a 64-bit significand and a decimal exponent, unless it is too large. The powers
of ten reach to `10 ^ 308`, so a smaller exponent takes two divisions, and below -616 the result is
zero. -/
def scale? (negative : Bool) (significand : Nat) (exponent : Int) : Option Binary64 :=
  let x := Binary64.ofQuotient negative significand 1
  if significand = 0 then some (.zero negative)
  else if exponent > 308 then none
  else if exponent ≥ 0 then
    match x.timesPower exponent.toNat with
    | .infinite _ => none
    | y => some y
  else if exponent ≥ -308 then some (x.overPower (-exponent).toNat)
  else if exponent ≥ -616 then some ((x.overPower 308).overPower (-exponent - 308).toNat)
  else some (.zero negative)

structure Number where
  negative : Bool
  whole : List Char
  fraction : Option (List Char)
  exponent : Option (Bool × List Char)

/-- Reads an optional exponent: whether it is negative, and its digits. -/
def exponent : Reader (Option (Bool × List Char)) := do
  match ← peek with
  | some 'e' | some 'E' =>
    let _ ← next
    let negative ← char? '-'
    if !negative then let _ ← char? '+'
    return some (negative, ← takeWhile1 isDigit)
  | _ => return none

/-- Reads the parts of a number; its whole part has no leading zero. -/
def number : Reader Number := do
  let negative ← char? '-'
  let whole ← takeWhile1 isDigit
  guard (whole.head? ≠ some '0' ∨ whole.length = 1)
  let fraction ← if ← char? '.' then some <$> takeWhile1 isDigit else pure none
  return ⟨negative, whole, fraction, ← exponent⟩

/-- The value of a number. Digits that no longer fit the significand count in the exponent if they
stand before the point, and not at all after it. -/
def Number.value? (x : Number) : Option Data :=
  let (whole, excess) := absorb 0 x.whole
  match x.fraction, x.exponent with
  | none, none =>
    if excess ≠ [] then (scale? x.negative whole excess.length).map .float
    else if !x.negative then some (.int whole)
    else if whole = 0 then some (.float (.zero true))
    else if fitsWord (-whole) then some (.int (-whole))
    else some (.float (.ofQuotient true whole 1))
  | _, _ =>
    let fraction := x.fraction.getD []
    let (significand, lost) := absorb whole fraction
    let shift : Int := (excess.length : Int) - ((fraction.length - lost.length : Nat) : Int)
    match x.exponent with
    | none => (scale? x.negative significand shift).map .float
    | some (negative, digits) =>
      let e : Nat := (natIn? 10 digits).getD 0
      if e > 0x7FFFFFFF then
        if significand = 0 ∨ negative then some (.float (.zero x.negative)) else none
      else
        (scale? x.negative significand (if negative then shift - e else shift + e)).map .float

def codeUnit : Reader Nat := fun s =>
  if s.length < 4 then none else (natIn? 16 (s.take 4)).map (·, s.drop 4)

/-- Reads what follows `\u`: one code unit, or two that are a pair of surrogates. -/
def escapedCode : Reader Char := do
  let high ← codeUnit
  if 0xD800 ≤ high ∧ high ≤ 0xDBFF then
    literal "\\u"
    let low ← codeUnit
    guard (0xDC00 ≤ low ∧ low ≤ 0xDFFF)
    (charOfCode? (0x10000 + (high - 0xD800) * 0x400 + (low - 0xDC00)) : Option Char)
  else (charOfCode? high : Option Char)

def escape : Reader Char := do
  match ← next with
  | '"' => return '"'
  | '\\' => return '\\'
  | '/' => return '/'
  | 'b' => return '\x08'
  | 'f' => return '\x0c'
  | 'n' => return '\n'
  | 'r' => return '\r'
  | 't' => return '\t'
  | 'u' => escapedCode
  | _ => failure

/-- Reads one character of a string, or its closing quote. -/
def stringChar : Reader (Option Char) := do
  match ← next with
  | '"' => return none
  | '\\' => return some (← escape)
  | c => if c.toNat < 0x20 then failure else return some c

/-- Reads the rest of a string after its opening quote. -/
def string : Reader String := do
  return String.ofList (← repeating stringChar)

/-- Reads items with commas between them up to a closing character. -/
def items {α : Type} (item : Reader α) (close : Char) : Reader (List α) := do
  space
  if ← char? close then return []
  let first ← item
  let more ← repeating do
    space
    match ← next with
    | ',' => space; return some (← item)
    | c => guard (c = close); return none
  return first :: more

/-- Reads an entry of an object with a given reader for its value. -/
def entry (value : Reader Data) : Reader (String × Data) := do
  char '"'
  let key ← string
  space
  char ':'
  space
  return (key, ← value)

def scalar : Reader Data := do
  match ← peek with
  | some '"' => let _ ← next; return .string (← string)
  | some 't' => literal "true"; return .bool true
  | some 'f' => literal "false"; return .bool false
  | some 'n' => literal "null"; return .null
  | _ => ((← number).value? : Option Data)

/-- Reads a value in which arrays and objects are nested at most so many deep. -/
def value : Nat → Reader Data
  | 0 => do
    guard ((← peek) ≠ some '[' ∧ (← peek) ≠ some '\x7b')
    scalar
  | depth + 1 => do
    match ← peek with
    | some '[' => let _ ← next; return .array (← items (value depth) ']')
    | some '\x7b' =>
      let _ ← next
      let entries ← items (entry (value depth)) '\x7d'
      return .object (entries.foldl (fun es e => Data.put es e.1 e.2) [])
    | _ => scalar

def read? (text : String) : Option Data :=
  whole? (do space; let v ← value 127; space; return v) text

end TimingTable.Json
