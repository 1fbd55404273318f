import TimingTable.Data
import TimingTable.Decimal.Read

/-!
# Nodes of YAML

A `Node` is what a document is made of. `Node.ofPlain` says what a scalar without quotes is: null, a
truth value, an integer of 64 bits, a number that is kept as it was written, or else a string. A
scalar that does not fit its tag is `unknown`; it counts as null, but not as a key.
-/

namespace TimingTable.Yaml
open Text Reader

inductive Node
  | null
  | bool (value : Bool)
  | int (value : Int)
  | number (text : String)
  | string (value : String)
  | sequence (items : List Node)
  | mapping (entries : List (String × Node))
  | unknown

/-- An integer that fits 64 bits, with an optional sign before its digits. -/
def signedIn? (base : Nat) (s : List Char) : Option Int := do
  let (negative, digits) := match s with
    | '-' :: r => (true, r)
    | '+' :: r => (false, r)
    | r => (false, r)
  let n ← natIn? base digits
  guard (fitsWord (signed negative n))
  return signed negative n

/-- The spellings of the language for what is no finite number. They make a scalar a number, but no
float is written like that. -/
def pointedWords : List String :=
  [".inf", ".Inf", ".INF", "+.inf", "+.Inf", "+.INF", "-.inf", "-.Inf", "-.INF", ".nan", ".NAN"]

def isNumber (text : String) : Bool := text ∈ pointedWords || (Decimal.read? text).isSome

/-- The integer of a scalar with a mark before its digits. -/
def markedInt? (text : String) : Option Int :=
  match text.toList with
  | '0' :: 'x' :: r => signedIn? 16 r
  | '0' :: 'o' :: r => signedIn? 8 r
  | '+' :: r => signedIn? 10 r
  | _ => none

namespace Node

/-- The node of a scalar without quotes and tag. -/
def ofPlain (text : String) : Node :=
  match markedInt? text with
  | some n => int n
  | none =>
    if text = "~" || text = "null" then null
    else if text = "true" then bool true
    else if text = "false" then bool false
    else match signedIn? 10 text.toList with
      | some n => int n
      | none => if isNumber text then number text else string text

def coreTag : String := "tag:yaml.org,2002:"

/-- The node of a scalar without quotes that has a tag, given by its stem and suffix. A tag that is
none of a core type makes it a string. -/
def ofTagged (stem suffix text : String) : Node :=
  if stem ≠ coreTag then string text
  else match suffix with
    | "bool" => if text = "true" then bool true else if text = "false" then bool false else unknown
    | "int" => ((signedIn? 10 text.toList).map int).getD unknown
    | "float" => if isNumber text then number text else unknown
    | "null" => if text = "~" || text = "null" then null else unknown
    | _ => string text

/-- A key by its kind and text; only strings and integers can be keys. -/
def key? : Node → Option (Bool × String)
  | string s => some (true, s)
  | int n => some (false, toString n)
  | _ => none

/-- The pairs of a list of keys and values in turn. An unknown node is no key and is passed over,
and a key without a value at the end is left out. -/
def pairUp : List Node → List (Node × Node)
  | [] => []
  | unknown :: nodes => pairUp nodes
  | [_] => []
  | k :: v :: nodes => (k, v) :: pairUp nodes

/-- The mapping of some keys and values, no two of whose keys may be the same. A string and an
integer are different keys also where they have one text. -/
def ofPairs? (pairs : List (Node × Node)) : Option Node := do
  let pairs := pairUp (pairs.flatMap fun p => [p.1, p.2])
  let keys ← pairs.mapM fun p => p.1.key?
  guard keys.Nodup
  return mapping ((keys.zip pairs).map fun (key, p) => (key.2, p.2))

mutual

/-- The data of a node, whose numbers must all be floats. Of two entries with one key the later one
counts. -/
def toData? : Node → Option Data
  | null | unknown => some .null
  | bool b => some (.bool b)
  | int n => some (.int n)
  | number text => (Decimal.read? text).map .float
  | string s => some (.string s)
  | sequence items => do return .array (← itemsToData? items)
  | mapping entries => do
    return .object ((← entriesToData? entries).foldl (fun es e => Data.put es e.1 e.2) [])

def itemsToData? : List Node → Option (List Data)
  | [] => some []
  | n :: nodes => do return (← toData? n) :: (← itemsToData? nodes)

def entriesToData? : List (String × Node) → Option (List (String × Data))
  | [] => some []
  | (key, n) :: entries => do return (key, ← toData? n) :: (← entriesToData? entries)

end

end Node

end TimingTable.Yaml
