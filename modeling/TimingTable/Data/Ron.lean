import TimingTable.Data
import TimingTable.Decimal.Read

/-!
# Reading RON

`Ron.read?` reads structures and tuples with or without a name, lists, maps, options, strings with and
without escapes, characters and numbers. A `Value` is what is written, and `Value.toData?` its data, in
which the names of structures are gone and a character is a string. Only strings and characters can be
keys.

The marks at the top that switch parts of the notation on are read and have no effect: what stands in
`Some` always has parentheses of its own. How deep values are nested is not bounded.
-/

namespace TimingTable.Ron
open Text Reader

inductive Value
  | unit
  | bool (value : Bool)
  | int (value : Int)
  | float (value : Binary64)
  | char (value : Char)
  | string (value : String)
  | given (value : Value)
  | list (items : List Value)
  | map (entries : List (Value × Value))

/-- A key of a map; a character is another key than the string of the character. -/
structure Key where
  isString : Bool
  text : String
deriving DecidableEq

/-- The entries of a map by name, of which the last one with a key counts. Where a character and a string
have one text, the string counts. -/
def entriesByName? (entries : List (Option Key × Option Data)) : Option (List (String × Data)) := do
  let keyed ← entries.mapM fun e => e.1.map (·, e.2)
  let last := keyed.foldl (fun es e => es.filter (·.1 ≠ e.1) ++ [e]) []
  let values ← last.mapM fun e => e.2.map (e.1, ·)
  let (strings, chars) := values.partition (·.1.isString)
  return (chars ++ strings).foldl (fun es e => Data.put es e.1.text e.2) []

namespace Value

def key? : Value → Option Key
  | char c => some ⟨false, String.singleton c⟩
  | string s => some ⟨true, s⟩
  | _ => none

mutual

def toData? : Value → Option Data
  | unit => some .null
  | bool b => some (.bool b)
  | int n => some (.int n)
  | float x => some (.float x)
  | char c => some (.string (String.singleton c))
  | string s => some (.string s)
  | given v => toData? v
  | list items => do return .array (← itemsToData? items)
  | map entries => do return .object (← entriesByName? (entriesToData entries))

def itemsToData? : List Value → Option (List Data)
  | [] => some []
  | v :: vs => do return (← toData? v) :: (← itemsToData? vs)

def entriesToData : List (Value × Value) → List (Option Key × Option Data)
  | [] => []
  | (k, v) :: es => (key? k, toData? v) :: entriesToData es

end

end Value

/-! ## Tokens -/

def isSpace (c : Char) : Bool := c = ' ' || c = '\t' || c = '\n' || c = '\r'

def startsName (c : Char) : Bool := c.isAlpha || c = '_'

def continuesName (c : Char) : Bool := startsName c || isDigit c

/-- The characters of names that are marked as such. -/
def isMarkedNameChar (c : Char) : Bool := continuesName c || c = '.' || c = '+' || c = '-'

/-- What follows so many comments, each in the one before it. -/
def afterComments : Nat → List Char → Option (List Char)
  | 0, s => some s
  | depth + 1, '/' :: '*' :: s => afterComments (depth + 2) s
  | depth + 1, '*' :: '/' :: s => afterComments depth s
  | depth + 1, _ :: s => afterComments (depth + 1) s
  | _ + 1, [] => none

/-- Passes over spaces and comments; nothing else begins with a slash. -/
def gap : Reader Unit := do
  let _ ← repeating do
    let _ ← takeWhile isSpace
    if ← literal? "//" then
      let _ ← takeWhile (· ≠ '\n')
      return some ()
    else if ← literal? "/*" then
      set (← (afterComments 1 (← get) : Option (List Char)))
      return some ()
    else
      guard ((← peek) ≠ some '/')
      return none

/-- Reads a name. One with a point or a sign in it needs a mark before it. -/
def name : Reader String := fun s =>
  match s with
  | 'r' :: '"' :: _ => none
  | 'r' :: '#' :: s =>
    let word := s.takeWhile isMarkedNameChar
    if word = [] then none else some (String.ofList word, s.dropWhile isMarkedNameChar)
  | s =>
    let rest := s.dropWhile continuesName
    if s.head?.any startsName && !rest.head?.any isMarkedNameChar then
      some (String.ofList (s.takeWhile continuesName), rest)
    else none

/-- Takes a name if one is next, and says whether there was one. -/
def name? : Reader Bool := fun s =>
  match name s with
  | some (_, r) => some (true, r)
  | none => some (false, s)

/-- Takes a word if it is next and is no part of a longer one, and says whether it was. -/
def word? (word : String) : Reader Bool := fun s =>
  let rest := s.drop word.length
  some (if word.toList.isPrefixOf s && !rest.head?.any continuesName then (true, rest) else (false, s))

/-! ## Scalars -/

/-- Reads a character by one to six hexadecimal digits between braces. -/
def charByCode : Reader Char := do
  char '\x7b'
  let digits ← takeWhile1 (· ≠ '\x7d')
  guard (digits.length ≤ 6)
  char '\x7d'
  (charOfCode? (← (natIn? 16 digits : Option Nat)) : Option Char)

def escape : Reader Char := do
  match ← next with
  | '\'' => return '\''
  | '"' => return '"'
  | '\\' => return '\\'
  | 'n' => return '\n'
  | 'r' => return '\r'
  | 't' => return '\t'
  | '0' => return '\x00'
  | 'x' => return Char.ofNat (← (natIn? 16 [← next, ← next] : Option Nat))
  | 'u' => charByCode
  | _ => failure

/-- Reads the rest of a string after its opening quote. -/
def string : Reader String := do
  let cs ← repeating do
    match ← next with
    | '"' => return none
    | '\\' => return some (← escape)
    | c => return some c
  return String.ofList cs

def splitAtEnding (ending : List Char) : List Char → Option (List Char × List Char)
  | [] => none
  | c :: s =>
    if ending.isPrefixOf (c :: s) then some ([], (c :: s).drop ending.length)
    else (splitAtEnding ending s).map fun (before, rest) => (c :: before, rest)

/-- Reads a string without escapes after its mark; it ends at a quote with as many signs after it as
there are before it. -/
def rawString : Reader String := do
  let signs ← takeWhile (· = '#')
  char '"'
  let (text, rest) ← (splitAtEnding ('"' :: signs) (← get) : Option (List Char × List Char))
  set rest
  return String.ofList text

/-- Reads the rest of a character after its opening quote. -/
def character : Reader Char := do
  let first ← next
  guard (first ≠ '\'')
  let c ← if first = '\\' then escape else pure first
  char '\''
  return c

def isFloatChar (c : Char) : Bool := isDigit c || ".eE+-_".toList.contains c

def isIntegerChar (c : Char) : Bool := (digitIn? 16 c).isSome || c = '_'

/-- Reads a float, in which there are no underscores. -/
def float : Reader Value := do
  let text ← takeWhile1 isFloatChar
  return .float (← (Decimal.read? (String.ofList text) : Option Binary64))

/-- Reads an integer in one of four bases. With a sign it fits a signed word; without one it may need all
of its 64 bits, and is a float then. -/
def integer : Reader Value := do
  let minus ← char? '-'
  let plus ← if minus then pure false else char? '+'
  let base ←
    if ← literal? "0x" then pure 16
    else if ← literal? "0b" then pure 2
    else if ← literal? "0o" then pure 8
    else pure 10
  let digits ← takeWhile1 isIntegerChar
  guard (digits.head? ≠ some '_')
  let n : Nat ← (natIn? base (digits.filter (· ≠ '_')) : Option Nat)
  if fitsWord (signed minus n) then return .int (signed minus n)
  guard (!minus && !plus && n < 0x10000000000000000)
  return .float (.ofQuotient false n 1)

/-- Reads a number. It is a float if it goes on with characters that only a float has, or if it is no
integer. -/
def number : Reader Value := fun s =>
  let size := match s with
    | '+' :: r | '-' :: r => r
    | r => r
  if (size.takeWhile isIntegerChar).length < (size.takeWhile isFloatChar).length then float s
  else (integer s).or (float s)

/-! ## Values -/

def field (value : Reader Value) : Reader (Value × Value) := do
  let word ← name
  gap
  char ':'
  gap
  return (.string word, ← value)

def entry (value : Reader Value) : Reader (Value × Value) := do
  let key ← value
  gap
  char ':'
  gap
  return (key, ← value)

/-- Reads what stands in parentheses after the opening one: named fields if a name and a colon are first,
else a tuple. -/
def inParentheses (value : Reader Value) : Reader Value := do
  let named ← follows do
    gap
    let _ ← name
    gap
    char ':'
  if named then return .map (← itemsUpTo ')' gap (field value))
  else return .list (← itemsUpTo ')' gap value)

def option (value : Reader Value) : Reader Value := do
  gap
  char '('
  gap
  let v ← value
  gap
  let _ ← char? ','
  gap
  char ')'
  return .given v

/-- Reads a value in which others are nested less deeply than the bound. -/
def value : Nat → Reader Value
  | 0 => failure
  | depth + 1 => do
    if ← word? "true" then return .bool true
    if ← word? "false" then return .bool false
    if ← word? "Some" then return ← option (value depth)
    if ← word? "None" then return .unit
    if ← literal? "()" then return .unit
    if ← word? "inf" then return .float (.infinite false)
    if ← word? "-inf" then return .float (.infinite true)
    if ← word? "NaN" then return .float .nan
    if ← name? then
      -- the name of a structure says nothing, and without parentheses it stands for nothing
      gap
      if ← char? '(' then return ← inParentheses (value depth)
      return .unit
    match ← peek with
    | some '(' => let _ ← next; inParentheses (value depth)
    | some '[' => let _ ← next; return .list (← itemsUpTo ']' gap (value depth))
    | some '\x7b' => let _ ← next; return .map (← itemsUpTo '\x7d' gap (entry (value depth)))
    | some '"' => let _ ← next; return .string (← string)
    | some 'r' => let _ ← next; return .string (← rawString)
    | some '\'' => let _ ← next; return .char (← character)
    | some '.' => float
    | _ => number

/-- The parts of the notation that can be switched on. -/
def switches : List String := ["unwrap_newtypes", "implicit_some", "unwrap_variant_newtypes"]

def switch : Reader Unit := do
  guard ((← name) ∈ switches)

/-- Reads a mark that switches parts of the notation on. -/
def mark : Reader Unit := do
  for token in ["#", "!", "[", "enable", "("] do
    literal token
    gap
  switch
  let _ ← repeating do
    gap
    if !(← char? ',') then return none
    gap
    if !(← peek).any continuesName then return none
    switch
    return some ()
  for token in [")", "]"] do
    gap
    literal token
  gap

def document : Reader Value := do
  gap
  let _ ← repeating do
    if (← peek) ≠ some '#' then return none
    mark
    return some ()
  let v ← value ((← left) + 1)
  gap
  return v

def read? (text : String) : Option Data := (whole? document text).bind Value.toData?

end TimingTable.Ron
