import TimingTable.Data.Yaml.Lexer
import TimingTable.Text.Digits

/-!
# Names, tags and directives of YAML

What can stand before a node, an anchor that names it and a tag that says its type, and what can
stand before a document.
-/

namespace TimingTable.Yaml
open Text Scan

/-- The characters of a name: all but blanks, line ends, brackets, commas and the byte order
mark. -/
def isNameChar (c : Char) : Bool :=
  !isBlankHere c && c ≠ '\n' && !isFlowMark c && c ≠ '\uFEFF'

/-- Reads the name after the mark of an anchor or an alias. -/
def nodeName : Scan String := do
  let _ ← next
  let name ← takeWhile isNameChar
  guard (name ≠ [])
  return String.ofList name

/-- The characters of an address, in which a percent sign begins an escape. -/
def isAddressChar (c : Char) : Bool :=
  c.isAlphanum || c = '-' || "#;/?:@&=+$,_.!~*'()[]%".toList.contains c

def isTagChar (c : Char) : Bool := isAddressChar c && !isFlowMark c && c ≠ '!'

/-- Reads a byte written as a percent sign and two hexadecimal digits. -/
def escapedByte : Scan Nat := do
  guard (← char? '%')
  let high ← next
  let low ← next
  (natIn? 16 [high, low] : Option Nat)

/-- Reads an escaped character. Its first byte says how many there are, and its code is the number
that they write in base 256. -/
def escapedChar : Scan Char := do
  let first ← escapedByte
  let count ←
    if first < 0x80 then pure 0
    else if 0xC0 ≤ first ∧ first < 0xE0 then pure 1
    else if 0xE0 ≤ first ∧ first < 0xF0 then pure 2
    else if 0xF0 ≤ first ∧ first < 0xF8 then pure 3
    else failure
  let code ← (List.range count).foldlM (fun code _ => do
    let byte ← escapedByte
    guard (0x80 ≤ byte ∧ byte < 0xC0)
    return 0x100 * code + byte) first
  (charOfCode? code : Option Char)

/-- Reads characters with a property; escaped ones count if the percent sign does. -/
def addressChars (p : Char → Bool) : Scan (List Char) :=
  repeating do
    match ← peek with
    | none => return none
    | some c =>
      if !p c then return none
      else if c = '%' then return some (← escapedChar)
      else let _ ← next; return some c

/-- Reads a handle; that of a directive is a single mark or ends in one. -/
def tagHandle (inDirective : Bool) : Scan String := do
  guard (← char? '!')
  let word ← takeWhile isWordChar
  if ← char? '!' then return String.ofList ('!' :: word ++ ['!'])
  guard (!inDirective || word = [])
  return String.ofList ('!' :: word)

/-- Reads the token of a tag: an address between angle brackets, or a handle and a suffix. A single
mark is a suffix without a handle. -/
def tagToken : Scan Token := do
  let t ← match ← rest with
    | '!' :: '<' :: _ => do
      let _ ← next
      let _ ← next
      let address ← addressChars isAddressChar
      guard (← char? '>')
      pure (Token.tag "" (String.ofList address))
    | _ => do
      let handle ← tagHandle false
      let more ← addressChars isTagChar
      if handle.length ≥ 2 && handle.toList.getLast? = some '!' then
        guard (more ≠ [])
        pure (Token.tag handle (String.ofList more))
      else
        let suffix := handle.toList.drop 1 ++ more
        if suffix = [] then pure (Token.tag "" "!")
        else pure (Token.tag "!" (String.ofList suffix))
  let s ← rest
  guard (endsToken s || ((← inFlow) && (s.head?.map isFlowMark).getD false))
  return t

def versionNumber : Scan Unit := do
  let digits ← takeWhile isDigit
  guard (1 ≤ digits.length ∧ digits.length ≤ 9)

/-- Reads the stem that a directive gives to a handle. -/
def stem : Scan String := do
  match ← peek with
  | some c =>
    guard (c = '!' || isTagChar c)
    let first ← if c = '%' then escapedChar else next
    return String.ofList (first :: (← addressChars isAddressChar))
  | none => failure

/-- Reads a directive and its line. An unknown one counts as one that gives nothing a stem. -/
def directive : Scan Token := do
  let _ ← next
  let name ← takeWhile isWordChar
  guard (name ≠ [] ∧ endsToken (← rest))
  let t ← match String.ofList name with
    | "YAML" => do
      let _ ← takeWhile isBlankHere
      versionNumber
      guard (← char? '.')
      versionNumber
      pure Token.version
    | "TAG" => do
      let _ ← takeWhile isBlankHere
      let handle ← tagHandle true
      let _ ← takeWhile isBlankHere
      let start ← stem
      guard (endsToken (← rest))
      pure (Token.tagStem handle start)
    | _ => do
      let _ ← takeWhile (· ≠ '\n')
      pure (Token.tagStem "" "")
  let _ ← lineBlanks
  guard (← atLineEnd)
  let _ ← char? '\n'
  return t

end TimingTable.Yaml
