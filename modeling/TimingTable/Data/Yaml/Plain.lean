import TimingTable.Data.Yaml.Lexer

/-!
# Plain scalars of YAML

A scalar without quotes goes on up to a colon before a blank, a comment, a bracket inside brackets,
or a line that is not indented enough. Line breaks are folded.
-/

namespace TimingTable.Yaml
open Scan

/-- Whether a plain scalar may go on with the first character of a text. -/
def continuesPlain (inFlow : Bool) : List Char → Bool
  | [] => false
  | c :: s =>
    if isBlankHere c || c = '\n' || (inFlow && isFlowMark c) then false
    else !(c = ':' && (endsToken s || (inFlow && (s.head?.map isFlowMark).getD false)))

/-- Reads the characters of a plain scalar up to a blank or its end. -/
def plainRun : Scan (List Char) := do
  let flow ← inFlow
  repeating do
    if continuesPlain flow (← rest) then return some (← next) else return none

/-- Reads the blanks and line ends between two runs. Left of a column a tab may stand only on an
empty line. -/
def plainJoint (indent : Int) : Scan (List Char) := do
  let blanks ← takeWhile isBlankHere
  let ends ← repeating do
    match ← peek with
    | some '\n' => let _ ← next; return some true
    | some '\t' =>
      if (← column) < indent then
        let _ ← lineBlanks
        guard (← atLineEnd)
      else let _ ← next
      return some false
    | some ' ' => let _ ← next; return some false
    | _ => return none
  let count := ends.countP id
  return if count = 0 then blanks else foldedBreaks count

/-- Reads the runs of a plain scalar whose lines stand in a column or further right, with the joint
before each of them. -/
def plainRuns (indent : Int) (joint : List Char) : Nat → Scan (List Char)
  | 0 => failure
  | bound + 1 => do
    let s ← get
    if (s.column = 0 && startsMarker s.rest) || s.rest.head? = some '#' then return []
    if s.flowDepth > 0 then
      guard !(s.rest.head? = some '-' && ((s.rest.drop 1).head?.map isFlowMark).getD false)
    let run ← plainRun
    let text := if run = [] then [] else joint ++ run
    let c ← peek
    if c = some ' ' || c = some '\t' || c = some '\n' then
      let joint ← plainJoint indent
      if !(← inFlow) && (← column) < indent then return text
      return text ++ (← plainRuns indent joint bound)
    else return text

/-- Reads a plain scalar. Where it ends after a line end, a key may begin. -/
def plainText : Scan String := do
  unhang
  let s ← get
  guard !(s.flowDepth > 0 && s.column < s.indent + 1)
  let text ← plainRuns (s.indent + 1) [] (s.rest.length + 1)
  guard (text ≠ [])
  if (← get).inIndent then allowKey true
  return String.ofList text

end TimingTable.Yaml
