import TimingTable.Decimal.Binary64
import TimingTable.Text.Digits
import TimingTable.Text.Reader

/-!
# Reading decimal texts

`Decimal.read?` reads a decimal number with an optional sign, fraction and exponent, or one of the words
for what is no finite number. The value is the nearest float, and an infinite one past the greatest.
-/

namespace TimingTable.Decimal
open Text Reader

/-- Reads a decimal number with an optional fraction and exponent. There is a digit before or after
the point. -/
def unsigned (negative : Bool) : Reader Binary64 := do
  let whole ← takeWhile isDigit
  let fraction ← if ← char? '.' then takeWhile isDigit else pure []
  let n ← (natIn? 10 (whole ++ fraction) : Option Nat)
  let mark ← peek
  if mark = some 'e' || mark = some 'E' then
    let _ ← next
    let down ← char? '-'
    if !down then let _ ← char? '+'
    let e ← (natIn? 10 (← takeWhile isDigit) : Option Nat)
    return .ofDecimal negative n (signed down e - fraction.length)
  else return .ofDecimal negative n (-(fraction.length : Int))

/-- The float that a text writes: a decimal number or, in any case, one of the words for what is no
finite number, with an optional sign. -/
def read? (text : String) : Option Binary64 :=
  let (negative, size) := match text.toList with
    | '-' :: r => (true, r)
    | '+' :: r => (false, r)
    | r => (false, r)
  let word := (String.ofList size).toLower
  if word = "inf" || word = "infinity" then some (.infinite negative)
  else if word = "nan" then some .nan
  else whole? (unsigned negative) (String.ofList size)

end TimingTable.Decimal
