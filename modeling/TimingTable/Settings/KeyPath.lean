import TimingTable.Text.Digits
import TimingTable.Text.Reader

/-!
# Key paths

The name of a value in a file or in the environment can lead into a table or an array: after the
first name a point and a further name, or an index in brackets. `KeyPath.read` reads every name: one
that is no path in this sense is a single name as a whole. Case is no part of the first name.
-/

namespace TimingTable
open Text Reader

inductive KeyStep
  | child (name : String)
  | index (n : Int)
deriving DecidableEq, Repr

structure KeyPath where
  root : String
  steps : List KeyStep
deriving DecidableEq, Repr

namespace KeyPath

def isNameChar (c : Char) : Bool :=
  isDigit c || ('a' ≤ c && c ≤ 'z') || ('A' ≤ c && c ≤ 'Z') || c = ' ' || c = '_' || c = '-'

/-- Reads a step, if there is one more. -/
def step : Reader (Option KeyStep) := do
  match ← peek with
  | none => return none
  | some '.' =>
    let _ ← next
    return some (.child (String.ofList (← takeWhile1 isNameChar)))
  | some '[' =>
    let _ ← next
    let _ ← takeWhile fun c => c = ' ' || c = '\t'
    let negative ← char? '-'
    let n : Nat ← (natIn? 10 (← takeWhile1 isDigit) : Option Nat)
    let _ ← takeWhile fun c => c = ' ' || c = '\t'
    char ']'
    guard (fitsWord (signed negative n))
    return some (.index (signed negative n))
  | some _ => failure

def path : Reader KeyPath := do
  let root ← takeWhile1 isNameChar
  return ⟨(String.ofList root).toLower, ← repeating step⟩

def read (name : String) : KeyPath := (whole? path name).getD ⟨name.toLower, []⟩

end KeyPath

end TimingTable
