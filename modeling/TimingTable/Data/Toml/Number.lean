import TimingTable.Data
import TimingTable.Data.Toml.Moment

/-!
# Numbers of TOML

Integers in four bases and floats. Underscores may stand between digits, a decimal number has no
leading zero, an integer fits 64 bits, and a float may not be too large.
-/

namespace TimingTable.Toml
open Text Reader

/-- Reads digits with single underscores between them. -/
def digits (p : Char → Bool) : Reader (List Char) := do
  let first ← takeWhile1 p
  let more ← repeating do
    if ← char? '_' then return some (← takeWhile1 p) else return none
  return first ++ more.flatten

/-- Reads an integer in another base after its mark. -/
def basedInteger (base : Nat) : Reader Data := do
  let ds ← digits fun c => (digitIn? base c).isSome
  let n ← (natIn? base ds : Option Nat)
  guard (fitsWord n)
  return .int n

def decimalNumber : Reader Data := do
  let sign ← peek
  let negative := sign = some '-'
  if negative || sign = some '+' then let _ ← next
  match ← peek with
  | some 'i' => literal "inf"; return .float (.infinite negative)
  | some 'n' => literal "nan"; return .float .nan
  | _ =>
    let whole ← digits isDigit
    guard (whole.head? ≠ some '0' ∨ whole.length = 1)
    let fraction ← if ← char? '.' then some <$> digits isDigit else pure none
    let mark ← peek
    let exponent ←
      if mark = some 'e' || mark = some 'E' then do
        let _ ← next
        let down ← char? '-'
        if !down then let _ ← char? '+'
        let ds ← digits isDigit
        let e : Nat ← (natIn? 10 ds : Option Nat)
        pure (some (signed down e))
      else pure none
    match fraction, exponent with
    | none, none =>
      let n : Nat ← (natIn? 10 whole : Option Nat)
      guard (fitsWord (signed negative n))
      return .int (signed negative n)
    | _, _ =>
      let ds := fraction.getD []
      let n : Nat ← (natIn? 10 (whole ++ ds) : Option Nat)
      let x := Binary64.ofDecimal negative n (exponent.getD 0 - ds.length)
      guard (x ≠ .infinite false)
      return .float x

/-- Reads a date, a time or a number. -/
def numberOrMoment : Reader Data := fun s =>
  match moment s with
  | some (m, r) => some (.string m.text, r)
  | none =>
    match s with
    | '0' :: 'x' :: r => basedInteger 16 r
    | '0' :: 'o' :: r => basedInteger 8 r
    | '0' :: 'b' :: r => basedInteger 2 r
    | s => decimalNumber s

end TimingTable.Toml
