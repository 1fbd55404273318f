import TimingTable.Data.Yaml.Lexer

/-!
# Block scalars of YAML

A block scalar has its lines below its mark, all indented at least as far as the first one or as the
mark says. The bar keeps the line ends. The angle bracket folds them, except around lines that begin
with a blank. What happens to the line ends after the last line is a `Chomping`.
-/

namespace TimingTable.Yaml
open Scan

/-- What happens to the line ends at the end: all are left out, one is kept, or all are. -/
inductive Chomping
  | strip
  | clip
  | keep
deriving DecidableEq

/-- Reads a sign that says what happens to the line ends at the end. -/
def chomping? : Scan (Option Chomping) := do
  if ← char? '+' then return some .keep
  else if ← char? '-' then return some .strip
  else return none

/-- Reads a digit that says how far the lines are indented. -/
def increment? : Scan (Option Nat) := do
  match ← peek with
  | some c =>
    if c.isDigit then
      guard (c ≠ '0')
      let _ ← next
      return some (c.toNat - '0'.toNat)
    else return none
  | none => return none

/-- Reads the signs after the mark, which come in either order. -/
def blockSigns : Scan (Chomping × Option Nat) := do
  match ← chomping? with
  | some chomping => return (chomping, ← increment?)
  | none =>
    match ← increment? with
    | some n => return ((← chomping?).getD .clip, some n)
    | none => return (.clip, none)

/-- Passes over spaces up to a column. -/
def spacesTo (indent : Nat) : Scan Unit := modify fun s =>
  let count := ((s.rest.take (indent - s.column)).takeWhile (· = ' ')).length
  { s with rest := s.rest.drop count, column := s.column + count }

/-- Passes over lines with spaces only, and over the spaces of the next line up to a column. Gives
the number of lines. -/
def emptyLines (indent : Nat) : Scan Nat := do
  let ends ← repeating do
    spacesTo indent
    return if ← char? '\n' then some () else none
  return ends.length

/-- Passes over lines with spaces only and the spaces of the next line. Gives the greatest column
that was come to and the number of lines. -/
def firstLines : Scan (Nat × Nat) := do
  let columns ← repeating do
    let _ ← takeWhile (· = ' ')
    let c ← column
    return if ← char? '\n' then some c else none
  return ((columns ++ [← column]).foldl max 0, columns.length)

/-- Reads the lines in a column: `breaks` line ends are pending, and `afterBlank` says whether the
line before began with a blank. Gives the text with the number of line ends after it, the last
line's own one apart; there is none where the text ends. -/
def blockLines (folded : Bool) (indent : Nat) (own : Bool) (breaks : Nat) (afterBlank : Bool) :
    Nat → Scan (List Char × Bool × Nat)
  | 0 => failure
  | bound + 1 => do
    let s ← get
    if s.column ≠ indent || s.rest = [] || (indent = 0 && startsMark "..." s.rest) then
      return ([], own, breaks)
    let onBlank := (s.rest.head?.map isBlankHere).getD false
    let joint :=
      if folded && own && !afterBlank && !onBlank then
        if breaks = 0 then [' '] else List.replicate breaks '\n'
      else List.replicate (if own then breaks + 1 else breaks) '\n'
    let line ← takeWhile (· ≠ '\n')
    if ← char? '\n' then
      let breaks ← emptyLines indent
      let (text, tail) ← blockLines folded indent true breaks onBlank bound
      return (joint ++ line ++ text, tail)
    else return (joint ++ line, false, 0)

def blockText (folded : Bool) : Scan String := do
  let _ ← next
  unhang
  let (chomping, increment) ← blockSigns
  let _ ← lineBlanks
  guard (← atLineEnd)
  let ended ← char? '\n'
  guard ((← peek) ≠ some '\t')
  let outer := (← get).indent
  let (indent, breaks) ← match increment with
    | some n => do
      let indent := (if outer ≥ 0 then outer + n else n).toNat
      pure (indent, ← emptyLines indent)
    | none => do
      let (column, breaks) ← firstLines
      pure (max column (outer + 1).toNat, breaks)
  if (← rest) = [] then
    let count := match chomping with
      | .strip => 0
      | .clip => if ended then 1 else 0
      | .keep => if breaks = 0 then (if ended then 1 else 0) else breaks
    return String.ofList (List.replicate count '\n')
  guard !((← column) < indent && (← column) > outer)
  let (text, own, breaks) ←
    blockLines folded indent false breaks false ((← rest).length + 1)
  let atEnd := (← rest) = [] && (← column) ≥ max indent 1
  let count := match chomping with
    | .strip => 0
    | .clip => (if own then 1 else 0) + (if atEnd then 1 else 0)
    | .keep => (if own then 1 else 0) + (if atEnd then 1 else 0) + breaks
  return String.ofList (text ++ List.replicate count '\n')

end TimingTable.Yaml
