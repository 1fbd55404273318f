import TimingTable.Data.Yaml.Token
import TimingTable.Text.Reader

/-!
# Cutting YAML into tokens: the state

A `Lexer` is a place in a text together with what has to be remembered from the text before it: the
columns of the blocks that are open (`Level`), how deep it is in brackets, and where the key of a
colon to come may begin (`KeyPlace`). Line breaks are line feeds here.

A level that is no block only says how far the lines to come are indented at least: it stands for
the value of a key or of a dash, as long as it is not known what that value is.
-/

namespace TimingTable.Yaml
open Text

/-- An open level: the column of the level around it, and whether it is a block. -/
structure Level where
  outer : Int
  isBlock : Bool

structure KeyPlace where
  /-- Whether there still may be a key. -/
  possible : Bool := false
  /-- Whether anything but a key is an error. -/
  required : Bool := false
  /-- The number of tokens before it. -/
  token : Nat := 0
  line : Nat := 0
  column : Nat := 0

/-- The place without the chance for a key, unless one is required. -/
def KeyPlace.dropped? (p : KeyPlace) : Option KeyPlace :=
  if p.possible && p.required then none else some { p with possible := false }

/-- A place in a text and what is remembered from the text before it. -/
structure Lexer where
  rest : List Char
  line : Nat := 0
  column : Nat := 0
  /-- Whether there are only blanks before the place on its line. -/
  inIndent : Bool := true
  tokens : Array Token := #[]
  /-- Whether a key may begin at the next token. -/
  keyAllowed : Bool := true
  /-- The last place for a key at each depth of brackets, the innermost first. -/
  places : List KeyPlace := [{}]
  /-- The column of the innermost level. -/
  indent : Int := -1
  /-- The open levels, the innermost first. -/
  levels : List Level := []
  /-- How many brackets are open. -/
  flowDepth : Nat := 0
  /-- A place where a colon needs no blank after it. -/
  valueAt : Option (Nat × Nat) := none
  /-- Whether colons belong to a mapping that has begun with a brace or a question mark. -/
  inMapping : Bool := false
  /-- For each open sequence in brackets, the depth at which a pair without braces has begun. -/
  pairs : List (Option Nat) := []

abbrev Scan (α : Type) := StateT Lexer Option α

namespace Scan
variable {α : Type}

def rest : Scan (List Char) := return (← get).rest

def column : Scan Nat := return (← get).column

/-- The next character, which stays where it is. -/
def peek : Scan (Option Char) := return (← rest).head?

def inFlow : Scan Bool := return (← get).flowDepth > 0

def isBlankHere (c : Char) : Bool := c = ' ' || c = '\t'

def next : Scan Char := fun s =>
  match s.rest with
  | [] => none
  | c :: r =>
    if c = '\n' then
      some (c, { s with rest := r, line := s.line + 1, column := 0, inIndent := true })
    else
      some (c, { s with
        rest := r
        column := s.column + 1
        inIndent := s.inIndent && isBlankHere c })

/-- Takes the next character if it is the given one, and says whether it was. -/
def char? (c : Char) : Scan Bool := do
  if (← peek) = some c then let _ ← next; return true else return false

/-- Repeats a reader while it says there is more to come; each reading has to take a character. -/
def repeating (item : Scan (Option α)) : Scan (List α) := do
  Reader.repeatUpTo item ((← rest).length + 1)

/-- Takes the longest run of characters with a property, none of which is a line feed. -/
def takeWhile (p : Char → Bool) : Scan (List Char) := fun s =>
  let taken := s.rest.takeWhile p
  some (taken, { s with
    rest := s.rest.dropWhile p
    column := s.column + taken.length
    inIndent := s.inIndent && taken.all isBlankHere })

def atLineEnd : Scan Bool := do
  let c ← peek
  return c = none || c = some '\n'

/-! ## Tokens and levels -/

def push (t : Token) : Scan Unit := modify fun s => { s with tokens := s.tokens.push t }

/-- Adds a token that has so many tokens before it. -/
def insert (count : Nat) (t : Token) : Scan Unit := modify fun s =>
  { s with tokens := (s.tokens.extract 0 count).push t ++ s.tokens.extract count s.tokens.size }

/-- Says whether a key may begin at the next token. -/
def allowKey (b : Bool) : Scan Unit := modify fun s => { s with keyAllowed := b }

/-- Opens a level one column further in that is no block, where the innermost level is one. -/
def hang : Scan Unit := modify fun s =>
  if s.flowDepth = 0 && (s.levels.head?.map Level.isBlock).getD false then
    { s with levels := ⟨s.indent, false⟩ :: s.levels, indent := s.indent + 1 }
  else s

/-- The column and the levels without the innermost levels that are no blocks. -/
def withoutHanging (indent : Int) : List Level → Int × List Level
  | ⟨outer, false⟩ :: levels => withoutHanging outer levels
  | levels => (indent, levels)

/-- Closes the innermost levels that are no blocks. -/
def unhang : Scan Unit := modify fun s =>
  let (indent, levels) := withoutHanging s.indent s.levels
  { s with indent, levels }

/-- Opens a block in a column, unless one is open there. Its token has so many tokens before it as
`count?` says, or else all. -/
def openBlock (column : Nat) (count? : Option Nat) (t : Token) : Scan Unit := do
  if ← inFlow then return
  modify fun s =>
    match s.levels with
    | ⟨outer, false⟩ :: levels =>
      if s.indent ≤ column then { s with indent := outer, levels } else s
    | _ => s
  let s ← get
  if s.indent < column then
    set { s with levels := ⟨s.indent, true⟩ :: s.levels, indent := column }
    insert (count?.getD s.tokens.size) t

/-- The column and the levels that stay open at a column, and how many blocks are closed. -/
def closedAt (column : Int) (indent : Int) : List Level → Int × List Level × Nat
  | [] => (indent, [], 0)
  | l :: levels =>
    if indent > column then
      let (i, ls, n) := closedAt column l.outer levels
      (i, ls, if l.isBlock then n + 1 else n)
    else (indent, l :: levels, 0)

/-- Closes the levels further in than a column. -/
def closeBlocks (column : Int) : Scan Unit := do
  if ← inFlow then return
  modify fun s =>
    let (indent, levels, count) := closedAt column s.indent s.levels
    { s with indent, levels, tokens := s.tokens ++ Array.replicate count .blockEnd }

/-! ## Places for keys -/

/-- Remembers that a key may begin here. It has to where a key of the innermost block is due. -/
def markPlace : Scan Unit := modify fun s =>
  if s.keyAllowed then
    let required := s.flowDepth = 0 && s.indent = s.column &&
      (s.levels.head?.map Level.isBlock).getD false
    let place : KeyPlace := ⟨true, required, s.tokens.size, s.line, s.column⟩
    { s with places := place :: s.places.tail }
  else s

/-- No key begins at the last place. -/
def dropPlace : Scan Unit := do
  let s ← get
  match s.places with
  | [] => return
  | p :: places => set { s with places := (← (p.dropped? : Option KeyPlace)) :: places }

/-- The greatest length of a key and what stands before its colon. -/
def maxKey : Nat := 1024

/-- Outside of brackets, no key begins at a place on an earlier line or too far back. -/
def expirePlaces : Scan Unit := do
  let s ← get
  if s.flowDepth > 0 then return
  let places ← (s.places.mapM fun p =>
    if p.possible && (p.line < s.line || p.column + maxKey < s.column) then p.dropped?
    else some p : Option (List KeyPlace))
  set { s with places }

end Scan

open Scan

/-- Whether a token ends before a text: at a blank, a line end or the end. -/
def endsToken : List Char → Bool
  | [] => true
  | c :: _ => isBlankHere c || c = '\n'

/-- The characters with a meaning of their own inside brackets. -/
def isFlowMark (c : Char) : Bool := c = ',' || c = '[' || c = ']' || c = '\x7b' || c = '\x7d'

/-- The ASCII letters and digits, the underscore and the hyphen. -/
def isWordChar (c : Char) : Bool := c.isAlphanum || c = '_' || c = '-'

/-- Whether a text starts with a mark of three characters that stands on its own. -/
def startsMark (mark : String) (s : List Char) : Bool :=
  mark.toList.isPrefixOf s && endsToken (s.drop 3)

/-- Whether a document ends or another begins before a text that stands at the start of a line. -/
def startsMarker (s : List Char) : Bool := startsMark "---" s || startsMark "..." s

/-- The text of the line breaks between two lines of a folded text: one is a space, and of more the
first is left out. -/
def foldedBreaks (count : Nat) : List Char :=
  if count ≤ 1 then [' '] else List.replicate (count - 1) '\n'

/-! ## Blanks and comments -/

structure Blanks where
  tab : Bool
  space : Bool

/-- Passes over blanks on the line and a comment, which has a blank before it. -/
def lineBlanks : Scan Blanks := do
  let passed ← takeWhile isBlankHere
  if (← peek) = some '#' then
    guard (passed ≠ [])
    let _ ← takeWhile (· ≠ '\n')
  return ⟨passed.contains '\t', passed.contains ' '⟩

/-- Passes over blanks, comments and line ends. After a line end outside of brackets a key may
begin. In an indentation that is too small for its level a tab may stand only on an empty line. -/
def gap : Scan Unit := do
  let _ ← repeating do
    let s ← get
    match s.rest with
    | '\t' :: _ =>
      if !s.levels.isEmpty && s.inIndent && s.column < s.indent then
        let _ ← lineBlanks
        guard (← atLineEnd)
      else let _ ← next
      return some ()
    | ' ' :: _ => let _ ← next; return some ()
    | '\n' :: _ =>
      let _ ← next
      if s.flowDepth = 0 then allowKey true
      return some ()
    | '#' :: _ => let _ ← takeWhile (· ≠ '\n'); return some ()
    | _ => return none

/-- Passes over spaces, comments and line ends after a question mark; there must be a space or a
line end, and no tab. -/
def gapAfterQuestion : Scan Unit := do
  let parting ← repeating do
    match ← peek with
    | some ' ' => let _ ← next; return some true
    | some '\n' =>
      let _ ← next
      if !(← inFlow) then allowKey true
      return some true
    | some '#' => let _ ← takeWhile (· ≠ '\n'); return some false
    | _ => return none
  guard (parting.contains true)
  guard ((← peek) ≠ some '\t')

end TimingTable.Yaml
