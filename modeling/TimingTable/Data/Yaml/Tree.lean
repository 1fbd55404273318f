import TimingTable.Data.Yaml.Node
import TimingTable.Data.Yaml.Token

/-!
# From tokens to nodes

`Node.ofTokens?` builds the node of the only document in a list of tokens. Blocks and brackets are
nested as their tokens say; where a key, a value or an entry is left out, it is null. A node may
have an anchor, and an alias stands for the node with its name; inside that node itself it is unknown.
-/

namespace TimingTable.Yaml
open Text

/-- What a tag with a handle begins with, and the nodes with an anchor. -/
structure Reading where
  rest : List Token
  stems : List (String × String) := []
  /-- The number of the last node with each name. -/
  names : List (String × Nat) := []
  /-- How many names were given. -/
  count : Nat := 0
  /-- The nodes by their numbers. -/
  nodes : List (Nat × Node) := []

abbrev TokenReader (α : Type) := StateT Reading Option α

namespace TokenReader
variable {α : Type}

/-- The next token, which stays where it is. -/
def peek : TokenReader (Option Token) := return (← get).rest.head?

/-- Passes over the next token. -/
def skip : TokenReader Unit := modify fun s => { s with rest := s.rest.tail }

/-- Takes the next token if it is the given one, and says whether it was. -/
def token? (t : Token) : TokenReader Bool := do
  if (← peek) = some t then skip; return true else return false

/-- Takes the next token, which must be the given one. -/
def token (t : Token) : TokenReader Unit := do guard (← token? t)

def isNext (ts : List Token) : TokenReader Bool := do
  return ((← peek).map ts.contains).getD false

/-- Repeats a reader while it says there is more to come; each reading has to take a token. -/
def repeating (item : TokenReader (Option α)) : TokenReader (List α) := do
  Reader.repeatUpTo item ((← get).rest.length + 1)

/-! ## Properties and scalars -/

structure Properties where
  anchor : Option Nat := none
  tag : Option (String × String) := none

/-- The stem and the suffix of a tag. A handle between two marks needs a stem of its own, except for
the one of the core types. -/
def resolve? (stems : List (String × String)) (handle suffix : String) : Option (String × String) :=
  if handle = "!!" then some ((stems.lookup handle).getD Node.coreTag, suffix)
  else match stems.lookup handle with
    | some stem => some (stem, suffix)
    | none =>
      if handle.length ≥ 2 && handle.toList.getLast? = some '!' then none
      else some (handle, suffix)

/-- Reads an anchor, if one is next. -/
def anchor? : TokenReader (Option Nat) := do
  match ← peek with
  | some (.anchor name) =>
    skip
    let s ← get
    set { s with names := (name, s.count) :: s.names, count := s.count + 1 }
    return some s.count
  | _ => return none

/-- Reads a tag, if one is next. -/
def tag? : TokenReader (Option (String × String)) := do
  match ← peek with
  | some (.tag handle suffix) =>
    skip
    return some (← (resolve? (← get).stems handle suffix : Option (String × String)))
  | _ => return none

/-- Reads the properties before a node, which come in either order. -/
def properties : TokenReader Properties := do
  match ← anchor? with
  | some a => return ⟨some a, ← tag?⟩
  | none =>
    match ← tag? with
    | some t => return ⟨← anchor?, some t⟩
    | none => return {}

def Properties.scalar (p : Properties) (plain : Bool) (text : String) : Node :=
  if !plain then .string text
  else match p.tag with
    | none => .ofPlain text
    | some (stem, suffix) => .ofTagged stem suffix text

/-- Keeps a node under its anchor. -/
def keep (p : Properties) (n : Node) : TokenReader Node := do
  match p.anchor with
  | none => return n
  | some a =>
    modify fun s => { s with nodes := (a, n) :: s.nodes }
    return n

/-! ## Collections -/

/-- Reads a node, or null where one of the given tokens is next. -/
def orNull (ends : List Token) (node : TokenReader Node) : TokenReader Node := do
  if ← isNext ends then return .null else node

def valueOrNull (ends : List Token) (node : TokenReader Node) : TokenReader Node := do
  if ← token? .value then orNull ends node else return .null

def blockEntries (node : TokenReader Node) : TokenReader (List (Node × Node)) :=
  let ends := [.key, .value, .blockEnd]
  repeating do
    if ← token? .blockEnd then return none
    let key ←
      if ← token? .key then orNull ends node
      else do
        guard (← isNext [.value])
        pure .null
    return some (key, ← valueOrNull ends node)

def blockItems (node : TokenReader Node) : TokenReader (List Node) :=
  repeating do
    if ← token? .blockEnd then return none
    token .dash
    return some (← orNull [.dash, .blockEnd] node)

/-- Reads the items of a block sequence whose dashes stand in the column of the keys around it. -/
def looseItems (node : TokenReader Node) : TokenReader (List Node) :=
  repeating do
    if ← token? .dash then
      return some (← orNull [.dash, .key, .value, .blockEnd] node)
    else return none

/-- Reads an entry of a mapping in brackets; only with a mark of its own a key has a value. -/
def flowEntry (node : TokenReader Node) : TokenReader (Node × Node) := do
  let ends := [.comma, .flowMappingEnd]
  if ← token? .key then
    let key ← orNull (.value :: ends) node
    return (key, ← valueOrNull ends node)
  else if ← isNext [.value] then return (.null, ← valueOrNull ends node)
  else return (← node, .null)

def flowEntries (node : TokenReader Node) : TokenReader (List (Node × Node)) := do
  if ← token? .flowMappingEnd then return []
  let first ← flowEntry node
  let more ← repeating do
    if ← token? .flowMappingEnd then return none
    token .comma
    if ← token? .flowMappingEnd then return none
    return some (← flowEntry node)
  return first :: more

/-- Reads an item of a sequence in brackets; a pair in it is a mapping of its own. -/
def flowItem (node : TokenReader Node) : TokenReader Node := do
  let ends := [.comma, .flowSequenceEnd]
  if ← token? .key then
    let key ← orNull (.value :: ends) node
    let value ← valueOrNull ends node
    (Node.ofPairs? [(key, value)] : Option Node)
  else node

def flowItems (node : TokenReader Node) : TokenReader (List Node) := do
  if ← token? .flowSequenceEnd then return []
  let first ← flowItem node
  let more ← repeating do
    if ← token? .flowSequenceEnd then return none
    token .comma
    if ← token? .flowSequenceEnd then return none
    return some (← flowItem node)
  return first :: more

/-- Where a node stands: in brackets, or in a block, where its dashes may or may not stand in the
column of the keys around it. -/
inductive Place
  | flow
  | block
  | loose
deriving DecidableEq

/-- The mapping of some keys and values. -/
def mapping (pairs : TokenReader (List (Node × Node))) : TokenReader Node := do
  (Node.ofPairs? (← pairs) : Option Node)

/-- Reads a node; the bound is on how deep nodes are nested. -/
def node : Nat → Place → TokenReader Node
  | 0, _ => failure
  | depth + 1, place => do
    if let some (.alias name) ← peek then
      skip
      let s ← get
      let a ← (s.names.lookup name : Option Nat)
      return (s.nodes.lookup a).getD .unknown
    let p ← properties
    match ← peek with
    | some (.scalar plain text) => skip; keep p (p.scalar plain text)
    | some .flowSequenceStart => skip; keep p (.sequence (← flowItems (node depth .flow)))
    | some .flowMappingStart => skip; keep p (← mapping (flowEntries (node depth .flow)))
    | t =>
      if t = some .dash && place = .loose then
        keep p (.sequence (← looseItems (node depth .block)))
      else if t = some .sequenceStart && place ≠ .flow then
        skip
        keep p (.sequence (← blockItems (node depth .block)))
      else if t = some .mappingStart && place ≠ .flow then
        skip
        keep p (← mapping (blockEntries (node depth .loose)))
      else
        guard (p.anchor.isSome || p.tag.isSome)
        keep p (p.scalar true "")

/-! ## Documents -/

/-- Reads the directives before a document; the version may be given once. Only the last directive
counts for the stems. -/
def directives : TokenReader Unit := do
  let versions ← repeating do
    match ← peek with
    | some .version =>
      skip
      modify fun s => { s with stems := [] }
      return some true
    | some (.tagStem handle stem) =>
      skip
      modify fun s => { s with stems := [(handle, stem)] }
      return some false
    | _ => return none
  guard (versions.countP id ≤ 1)

/-- Whether a document is empty where a token is next. -/
def endsDocument : Option Token → Bool
  | none | some .version | some (.tagStem _ _) | some .documentStart | some .documentEnd => true
  | _ => false

def documentEnds : TokenReader Unit := do
  let _ ← repeating do
    return if ← token? .documentEnd then some () else none

/-- Reads all tokens: no document or one. -/
def document : TokenReader (Option Node) := do
  documentEnds
  if (← get).rest = [] then return none
  let start ← get
  directives
  let depth := start.rest.length + 1
  let n ←
    if ← token? .documentStart then
      if endsDocument (← peek) then pure Node.null else node depth .block
    else do
      guard ((← get).rest.length = start.rest.length)
      node depth .block
  documentEnds
  guard ((← get).rest = [])
  return some n

end TokenReader

/-- The node of the document in some tokens; there is none where there is no document. -/
def Node.ofTokens? (ts : List Token) : Option (Option Node) :=
  (TokenReader.document.run { rest := ts }).map (·.1)

end TimingTable.Yaml
