import TimingTable.Text.Digits
import TimingTable.Text.Reader

/-!
# Dates and times in TOML

A moment has a date, a time, or both, and with both it may have an offset. `Moment.text` writes it
in one form, whatever way it was written: a `T` before the time, a fraction of at most nine digits
without zeros at its end, and `Z` for a letter.
-/

namespace TimingTable.Toml
open Text Reader

structure Date where
  year : Nat
  month : Nat
  day : Nat

/-- A time of the day; the fraction has its digits. -/
structure Time where
  hour : Nat
  minute : Nat
  second : Nat
  fraction : List Char

/-- How far a time is from the zero meridian, in minutes; none for `Z`. -/
abbrev Offset := Option Int

/-- A date, a time, or both. -/
inductive Moment
  | date (d : Date)
  | time (t : Time)
  | both (d : Date) (t : Time) (offset : Option Offset)

def daysIn (year month : Nat) : Nat :=
  let leap := year % 4 = 0 && (year % 100 ≠ 0 || year % 400 = 0)
  if month = 2 then (if leap then 29 else 28)
  else if month = 4 || month = 6 || month = 9 || month = 11 then 30 else 31

def fixedDigits (count : Nat) : Reader Nat := fun s =>
  if s.length < count || !(s.take count).all isDigit then none
  else (natIn? 10 (s.take count)).map (·, s.drop count)

def date : Reader Date := do
  let year ← fixedDigits 4
  char '-'
  let month ← fixedDigits 2
  char '-'
  let day ← fixedDigits 2
  guard (1 ≤ month ∧ month ≤ 12 ∧ 1 ≤ day ∧ day ≤ daysIn year month)
  return ⟨year, month, day⟩

def time : Reader Time := do
  let hour ← fixedDigits 2
  char ':'
  let minute ← fixedDigits 2
  char ':'
  let second ← fixedDigits 2
  guard (hour ≤ 23 ∧ minute ≤ 59 ∧ second ≤ 60)
  let fraction ← if ← char? '.' then takeWhile1 isDigit else pure []
  return ⟨hour, minute, second, fraction⟩

def offset : Reader (Option Offset) := do
  match ← peek with
  | some 'Z' | some 'z' => let _ ← next; return some none
  | some '+' | some '-' =>
    let sign ← next
    let hours ← fixedDigits 2
    char ':'
    let minutes ← fixedDigits 2
    guard (hours ≤ 23 ∧ minutes ≤ 59)
    let total : Int := hours * 60 + minutes
    return some (some (if sign = '-' then -total else total))
  | _ => return none

/-- Reads a moment; after a date a space begins a time only where digits and a colon follow it. -/
def moment : Reader Moment := fun s =>
  match date s with
  | none => (time s).map fun (t, r) => (.time t, r)
  | some (d, r) =>
    let timed := (do let t ← time; return Moment.both d t (← offset) : Reader Moment)
    match r with
    | 'T' :: r | 't' :: r => timed r
    | ' ' :: a :: b :: ':' :: r' =>
      if isDigit a && isDigit b then timed (a :: b :: ':' :: r') else some (.date d, r)
    | r => some (.date d, r)

/-- A number in at least so many digits. -/
def padded (width n : Nat) : String :=
  let digits := Nat.toDigits 10 n
  String.ofList (List.replicate (width - digits.length) '0' ++ digits)

def Date.text (d : Date) : String :=
  padded 4 d.year ++ "-" ++ padded 2 d.month ++ "-" ++ padded 2 d.day

def Time.text (t : Time) : String :=
  let fraction := ((t.fraction.take 9).reverse.dropWhile (· = '0')).reverse
  padded 2 t.hour ++ ":" ++ padded 2 t.minute ++ ":" ++ padded 2 t.second ++
    (if fraction = [] then "" else "." ++ String.ofList fraction)

def Offset.text : Offset → String
  | none => "Z"
  | some m =>
    (if m < 0 then "-" else "+") ++ padded 2 (m.natAbs / 60) ++ ":" ++ padded 2 (m.natAbs % 60)

def Moment.text : Moment → String
  | date d => d.text
  | time t => t.text
  | both d t o => d.text ++ "T" ++ t.text ++ (o.map Offset.text).getD ""

end TimingTable.Toml
