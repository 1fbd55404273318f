import TimingTable.Decimal.Binary64

/-!
# Shortest decimal texts

`shortest m q` are the fewest digits that are read back as `m * 2 ^ q`: the point of the coarsest
decimal grid that lies in the interval of reals rounding to this number, and of two such points the
nearer one; where both are as near, a `Tie` decides. The two neighbours of the number on a grid are
enough to look at, because a grid with a point in an interval around the number has one of them in
it.

A `Layout` says how digits and exponent become a text.
-/

namespace TimingTable.Decimal
open Binary64

/-- Which of two points that are as near is taken: the even one, or the one further from zero. -/
inductive Tie
  | toEven
  | away
deriving DecidableEq, Repr

/-- The decimal grids `10 ^ p` that can be needed, the coarsest first. -/
def grids : List Int := (List.range 640).map fun (i : Nat) => 310 - (i : Int)

/-- The point of the grid `10 ^ p` that stands for `m * 2 ^ q`, if one rounds to it. The interval
that rounds to it reaches from the half step below to the half step above; the step below is only
half as wide where `m` is the least significand of its exponent. Its ends belong to it where `m` is
even. -/
def onGrid? (tie : Tie) (m : Nat) (q p : Int) : Option Nat :=
  let unit := twoTo q.toNat * tenTo (-p).toNat
  let step := 4 * twoTo (-q).toNat * tenTo p.toNat
  let below := if m = twoTo 52 ∧ q > Binary64.leastExponent then 1 else 2
  let inside (c : Nat) :=
    if m % 2 = 0 then (4 * m - below) * unit ≤ c * step ∧ c * step ≤ (4 * m + 2) * unit
    else (4 * m - below) * unit < c * step ∧ c * step < (4 * m + 2) * unit
  let low := 4 * m * unit / step
  let rest := 2 * (4 * m * unit % step)
  if inside low ∧ ¬ inside (low + 1) then some low
  else if inside (low + 1) ∧ ¬ inside low then some (low + 1)
  else if inside low then
    some (if rest < step ∨ (rest = step ∧ tie = .toEven ∧ low % 2 = 0) then low else low + 1)
  else none

/-- The fewest digits, as a number, and their decimal exponent. -/
def shortest (tie : Tie) (m : Nat) (q : Int) : Nat × Int :=
  (grids.findSome? fun p => (onGrid? tie m q p).map (·, p)).getD (0, 0)

/-- How decimal digits become a text. -/
structure Layout where
  /-- Whether the digits are written around a decimal point that has so many of them before it. -/
  positional : Int → Bool
  /-- What follows a whole number. -/
  wholeMark : String
  /-- Which digits are written where two choices are as near. -/
  tie : Tie

/-- The number is always written out, a whole one has no point, and a tie goes away from zero. -/
def Layout.plain : Layout := ⟨fun _ => true, "", .away⟩

/-- Very large and very small numbers have an exponent, a whole one without exponent ends in `.0`,
and a tie goes to the even digit. -/
def Layout.data : Layout := ⟨fun point => -5 < point && point ≤ 16, ".0", .toEven⟩

def exponentText (e : Int) : String := (if 0 ≤ e then "+" else "") ++ toString e

/-- A text of digits that are worth `10 ^ exponent` each. -/
def Layout.digits (l : Layout) (digits : List Char) (exponent : Int) : String :=
  let point := (digits.length : Int) + exponent
  if l.positional point then
    if 0 ≤ exponent then
      String.ofList (digits ++ List.replicate exponent.toNat '0') ++ l.wholeMark
    else if 0 < point then
      String.ofList (digits.take point.toNat ++ '.' :: digits.drop point.toNat)
    else String.ofList ('0' :: '.' :: List.replicate (-point).toNat '0' ++ digits)
  else
    let tail := if digits.length ≤ 1 then [] else '.' :: digits.drop 1
    String.ofList (digits.take 1 ++ tail) ++ "e" ++ exponentText (point - 1)

def Layout.text (l : Layout) : Binary64 → String
  | .nan => "NaN"
  | .infinite negative => if negative then "-inf" else "inf"
  | .finite negative m q =>
    let sign := if negative then "-" else ""
    if m = 0 then sign ++ "0" ++ l.wholeMark
    else
      let (d, p) := shortest l.tie m q
      sign ++ l.digits (Nat.toDigits 10 d) p

end TimingTable.Decimal
