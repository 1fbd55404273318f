import TimingTable.Data.Yaml.BlockText
import TimingTable.Data.Yaml.Plain
import TimingTable.Data.Yaml.Property
import TimingTable.Data.Yaml.Quoted

/-!
# Cutting YAML into tokens

`tokens?` cuts a text into its tokens, or refuses it. `nextToken` reads the token that is next by
its first characters, and adds the tokens that stand for no character: the beginning of a block
where its first entry is found, the mark of a key where its colon is, and the ends of blocks where a
line is not indented far enough.
-/

namespace TimingTable.Yaml
open Scan

/-- How many brackets may be open. -/
def maxDepth : Nat := 255

/-- Ends the pair that has begun at a depth without braces, if there is one. -/
def endPair (depth : Nat) : Scan Unit := do
  let s ← get
  match s.pairs with
  | some d :: pairs =>
    if d = depth then
      set { s with pairs := none :: pairs, inMapping := false }
      push .flowMappingEnd
  | _ => return

def openBracket (t : Token) : Scan Unit := do
  markPlace
  hang
  let s ← get
  guard (s.flowDepth < maxDepth)
  set { s with
    places := {} :: s.places
    flowDepth := s.flowDepth + 1
    keyAllowed := true
    inMapping := s.inMapping || t == Token.flowMappingStart
    pairs := if t = Token.flowMappingStart then s.pairs else none :: s.pairs }
  let _ ← next
  let _ ← lineBlanks
  push t

/-- Reads a closing bracket. After it a colon needs no blank inside other brackets. -/
def closeBracket (t : Token) : Scan Unit := do
  dropPlace
  let depth := (← get).flowDepth
  modify fun s =>
    { s with
      places := if depth = 0 then s.places else s.places.tail
      flowDepth := depth - 1
      keyAllowed := false }
  if t = .flowSequenceEnd then
    endPair depth
    modify fun s => { s with pairs := s.pairs.tail }
  let _ ← next
  let _ ← lineBlanks
  if ← inFlow then modify fun s => { s with valueAt := some (s.line, s.column) }
  push t

def comma : Scan Unit := do
  dropPlace
  allowKey true
  endPair (← get).flowDepth
  let _ ← next
  let _ ← lineBlanks
  push .comma

/-- Reads the dash before an entry of a block sequence. There may be no tab before a second dash. -/
def dash : Scan Unit := do
  let s ← get
  guard (s.flowDepth = 0 && s.keyAllowed)
  let _ ← next
  openBlock s.column none .sequenceStart
  let blanks ← lineBlanks
  let r ← rest
  guard !(blanks.tab && r.head? = some '-' && endsToken (r.drop 1))
  if r.head? = some '\n' || (r.head?.map isFlowMark).getD false then hang
  dropPlace
  allowKey true
  push .dash

def question : Scan Unit := do
  let s ← get
  if s.flowDepth = 0 then
    guard s.keyAllowed
    openBlock s.column none .mappingStart
  else modify fun s => { s with inMapping := true }
  dropPlace
  allowKey (s.flowDepth = 0)
  let _ ← next
  gapAfterQuestion
  push .key

/-- Reads the colon before a value. Where its key begins is the last place for one; without such a
place the key has a mark of its own or is empty. After a tab alone a word is no value. -/
def colon : Scan Unit := do
  let s ← get
  let place := s.places.headD {}
  let pairBegins := !s.pairs.isEmpty && !s.inMapping
  if pairBegins then modify fun s => { s with pairs := some s.flowDepth :: s.pairs.tail }
  let _ ← next
  if (← peek) = some '\t' then
    let blanks ← lineBlanks
    guard (blanks.space || !(((← peek).map isWordChar).getD false))
  if place.possible then
    insert place.token .key
    if pairBegins then
      guard (place.line = s.line)
      insert place.token .flowMappingStart
    openBlock place.column (some place.token) .mappingStart
    hang
    modify fun s => { s with places := { place with possible := false } :: s.places.tail }
    allowKey false
  else
    if pairBegins then push .flowMappingStart
    if s.flowDepth = 0 then
      guard s.keyAllowed
      openBlock s.column none .mappingStart
    hang
    allowKey (s.flowDepth = 0)
  push .value

def documentMark (t : Token) : Scan Unit := do
  closeBlocks (-1)
  dropPlace
  allowKey false
  let _ ← next
  let _ ← next
  let _ ← next
  push t

/-- Reads the token of a node that a key may begin with. -/
def leaf (keyAfter : Bool) (token : Scan Token) : Scan Unit := do
  markPlace
  allowKey keyAfter
  push (← token)

/-- Reads a quoted scalar. After it a colon needs no blank inside brackets. -/
def quotedLeaf (quote : Char) : Scan Unit := do
  markPlace
  allowKey false
  let text ← quotedText quote
  gap
  modify fun s => { s with valueAt := some (s.line, s.column) }
  push (.scalar false text)

def plainLeaf : Scan Unit := leaf false do return .scalar true (← plainText)

def tokenFrom (c : Char) (after : List Char) : Scan Unit := do
  let s ← get
  let flow := s.flowDepth > 0
  let ends := endsToken after
  match c with
  | '[' => openBracket .flowSequenceStart
  | '\x7b' => openBracket .flowMappingStart
  | ']' => closeBracket .flowSequenceEnd
  | '\x7d' => closeBracket .flowMappingEnd
  | ',' => comma
  | '-' => if ends then dash else plainLeaf
  | '?' => if ends then question else plainLeaf
  | ':' =>
    let tight := (after.head?.map isFlowMark).getD false || s.valueAt = some (s.line, s.column)
    if ends || (flow && tight) then colon
    else plainLeaf
  | '*' => leaf false do return .alias (← nodeName)
  | '&' => leaf false do return .anchor (← nodeName)
  | '!' => leaf false tagToken
  | '|' => if flow then plainLeaf else leaf true do return .scalar false (← blockText false)
  | '>' => if flow then plainLeaf else leaf true do return .scalar false (← blockText true)
  | '\'' | '"' => quotedLeaf c
  | '%' | '@' | '\x60' => failure
  | _ => plainLeaf

/-- Reads the next token, and says whether there was one. -/
def nextToken : Scan (Option Unit) := do
  gap
  expirePlaces
  closeBlocks (← column)
  let s ← get
  match s.rest with
  | [] =>
    guard (s.places.all fun p => !(p.possible && p.required))
    closeBlocks (-1)
    return none
  | c :: after =>
    if s.column = 0 && c = '%' then
      closeBlocks (-1)
      dropPlace
      allowKey false
      push (← directive)
    else if s.column = 0 && startsMark "---" s.rest then documentMark .documentStart
    else if s.column = 0 && startsMark "..." s.rest then
      documentMark .documentEnd
      let _ ← lineBlanks
      guard (← atLineEnd)
    else
      guard (s.column ≥ s.indent)
      tokenFrom c after
    return some ()

/-- A text with every line break as a line feed, up to the first NUL, where it ends. -/
def plainBreaks : List Char → List Char
  | '\r' :: '\n' :: s => '\n' :: plainBreaks s
  | '\r' :: s => '\n' :: plainBreaks s
  | '\x00' :: _ => []
  | c :: s => c :: plainBreaks s
  | [] => []

def tokens? (text : String) : Option (List Token) :=
  let s : Lexer := { rest := plainBreaks text.toList }
  ((repeating nextToken).run s).map fun r => r.2.tokens.toList

end TimingTable.Yaml
