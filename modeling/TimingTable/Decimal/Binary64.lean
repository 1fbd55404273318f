/-!
# Binary floating-point numbers of 64 bits

A finite number is `significand * 2 ^ exponent` with a sign; its significand is below `2 ^ 53` and
its exponent at least -1074, and one of the two is as close to its bound as the value allows.
`ofQuotient` rounds an exact quotient of natural numbers to the nearest such number, an exact half
to the even significand. All arithmetic is that of `Nat`, so nothing here is rounded twice.
-/

namespace TimingTable

inductive Binary64
  | nan
  | infinite (negative : Bool)
  | finite (negative : Bool) (significand : Nat) (exponent : Int)
deriving DecidableEq, Repr

namespace Binary64

abbrev twoTo (k : Nat) : Nat := Nat.pow 2 k

abbrev tenTo (k : Nat) : Nat := Nat.pow 10 k

def leastExponent : Int := -1074

def greatestExponent : Int := 971

/-- Zero, with its sign. -/
def zero (negative : Bool) : Binary64 := finite negative 0 leastExponent

/-- The quotient `num / den`, multiplied by `2 ^ (-exponent)` and rounded to the nearest natural
number, an exact half to the even one. -/
def roundAt (num den : Nat) (exponent : Int) : Nat :=
  let n := num * twoTo (-exponent).toNat
  let d := den * twoTo exponent.toNat
  let m := n / d
  let twice := 2 * (n % d)
  if twice > d || (twice == d && m % 2 == 1) then m + 1 else m

/-- The exponent at which the quotient has a significand of 53 bits, or the least one. -/
def exponentFor (num den : Nat) : Int :=
  let k : Int := (Nat.log2 num : Int) - (Nat.log2 den : Int)
  let top := if num * twoTo (-k).toNat ≥ den * twoTo k.toNat then k else k - 1
  max (top - 52) leastExponent

/-- The number nearest to `num / den`; past the greatest finite number it is infinite. -/
def ofQuotient (negative : Bool) (num den : Nat) : Binary64 :=
  if num = 0 then zero negative
  else
    let e := exponentFor num den
    let m := roundAt num den e
    let (m, e) := if m = twoTo 53 then (twoTo 52, e + 1) else (m, e)
    if e > greatestExponent then infinite negative else finite negative m e

/-- The number nearest to `digits * 10 ^ exponent`. Beyond the bounds tested first the answer is
zero or infinite whatever the digits are. -/
def ofDecimal (negative : Bool) (digits : Nat) (exponent : Int) : Binary64 :=
  let point := ((Nat.toDigits 10 digits).length : Int) + exponent
  if digits = 0 ∨ point < -400 then zero negative
  else if point > 400 then infinite negative
  else ofQuotient negative (digits * tenTo exponent.toNat) (tenTo (-exponent).toNat)

/-- A finite number as a sign and a quotient. -/
def toQuotient? : Binary64 → Option (Bool × Nat × Nat)
  | finite negative m e => some (negative, m * twoTo e.toNat, twoTo (-e).toNat)
  | _ => none

/-- The product of a finite number with `10 ^ k`, where the power is itself rounded first. -/
def timesPower (x : Binary64) (k : Nat) : Binary64 :=
  match x.toQuotient?, (ofQuotient false (tenTo k) 1).toQuotient? with
  | some (s, n, d), some (_, pn, pd) => ofQuotient s (n * pn) (d * pd)
  | _, _ => x

/-- The quotient of a finite number by `10 ^ k`, where the power is itself rounded first. -/
def overPower (x : Binary64) (k : Nat) : Binary64 :=
  match x.toQuotient?, (ofQuotient false (tenTo k) 1).toQuotient? with
  | some (s, n, d), some (_, pn, pd) => ofQuotient s (n * pd) (d * pn)
  | _, _ => x

end Binary64

end TimingTable
