/-!
# Readers

A reader takes something off the front of a text and gives it with the rest of the text, or refuses.
Readers are composed as a state monad over the characters that are left. A reader that repeats
another one takes a bound on the number of times, which callers set to the length of the text.
-/

namespace TimingTable.Text

/-- A reader of `α`. -/
abbrev Reader (α : Type) := StateT (List Char) Option α

namespace Reader
variable {α : Type}

/-- The next character, which stays where it is. -/
def peek : Reader (Option Char) := fun s => some (s.head?, s)

def next : Reader Char
  | [] => none
  | c :: s => some (c, s)

/-- Takes the next character, which must be the given one. -/
def char (c : Char) : Reader Unit := do
  let d ← next
  guard (d = c)

/-- Takes the next character if it is the given one, and says whether it was. -/
def char? (c : Char) : Reader Bool
  | [] => some (false, [])
  | d :: s => some (if d = c then (true, s) else (false, d :: s))

def literal (text : String) : Reader Unit := fun s =>
  if text.toList.isPrefixOf s then some ((), s.drop text.length) else none

/-- Takes the given text if it is next, and says whether it was. -/
def literal? (text : String) : Reader Bool := fun s =>
  some (if text.toList.isPrefixOf s then (true, s.drop text.length) else (false, s))

def takeWhile (p : Char → Bool) : Reader (List Char) := fun s => some (s.takeWhile p, s.dropWhile p)

/-- Takes the longest run of characters with a property, which must not be empty. -/
def takeWhile1 (p : Char → Bool) : Reader (List Char) := do
  let cs ← takeWhile p
  guard (cs ≠ [])
  return cs

def done : Reader Unit := fun s => if s = [] then some ((), []) else none

def left : Reader Nat := fun s => some (s.length, s)

/-- Whether a reader would accept what comes next; nothing is taken. -/
def follows (r : Reader α) : Reader Bool := fun s => some ((r s).isSome, s)

/-- Repeats a step while it says there is more to come, at most `bound` times, and gives what the
steps held. -/
def repeatUpTo {σ : Type} (item : StateT σ Option (Option α)) : Nat → StateT σ Option (List α)
  | 0 => failure
  | bound + 1 => do
    match ← item with
    | none => return []
    | some x => return x :: (← repeatUpTo item bound)

/-- Repeats a reader while it says there is more to come; each reading has to take a character. -/
def repeating (item : Reader (Option α)) : Reader (List α) := do
  repeatUpTo item ((← left) + 1)

/-- Reads items with commas between them up to a closing character; a comma may follow the last one, too.
`gap` passes over what may stand around them. -/
def itemsUpTo (close : Char) (gap : Reader Unit) (item : Reader α) : Reader (List α) := do
  let items ← repeating do
    gap
    if (← peek) = some close then return none
    let x ← item
    gap
    if !(← char? ',') then guard ((← peek) = some close)
    return some x
  char close
  return items

def whole? (r : Reader α) (text : String) : Option α :=
  ((do let x ← r; done; return x : Reader α) text.toList).map (·.1)

end Reader

end TimingTable.Text
