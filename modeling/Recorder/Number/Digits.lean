/-
# Decimal digits of a binary64 number

Three ways to choose the decimal that stands for a number:

* `shortest`: the fewest digits that read back as the number, and of those the
  nearest; a tie goes to the even digit;
* `significant`: a given count of significant digits, rounded to nearest, a tie
  to even;
* `fixedPlaces`: a given count of places after the point, rounded likewise.

A choice is a whole number of digits and a power of ten.  How it is laid out in
text is `Recorder.Number.Notation`.
-/

import Recorder.Number.Double

namespace Recorder

/-- The decimal `digits · 10^exponent`. -/
structure Decimal where
  digits : Nat
  exponent : Int
deriving DecidableEq, Repr

namespace Decimal

/-- The place of the leading digit: `v` lies in `[10^k, 10^(k+1))` for `v = n / d > 0`. -/
def leadingPlace (n d : Nat) : Int :=
  if d ≤ n then (Double.digitCount (n / d) : Int) - 1
  else
    let below := Double.digitCount (d / n)
    if d ≤ n * tenTo (below - 1) then -((below : Int) - 1) else -(below : Int)

/-- `n / d` counted in units of `10^place`, as an exact quotient. -/
def inUnits (n d : Nat) (place : Int) : Nat × Nat :=
  if 0 ≤ place then (n, d * tenTo place.toNat) else (n * tenTo (-place).toNat, d)

/-- Drops zeros at the end, at most `fuel` of them. -/
def trimZeros : Nat → Decimal → Decimal
  | 0, x => x
  | fuel + 1, x =>
    if x.digits ≠ 0 ∧ x.digits % 10 = 0 then trimZeros fuel ⟨x.digits / 10, x.exponent + 1⟩ else x

/-- **Rounding to significant digits.**  `n / d > 0` with `count` digits. -/
def significant (count : Nat) (n d : Nat) : Decimal :=
  let place := leadingPlace n d - (count : Int) + 1
  let (a, b) := inUnits n d place
  trimZeros (count + 1) ⟨roundDiv a b, place⟩

/-- The whole number of units of `10^-places` nearest to `n / d`. -/
def fixedPlaces (places : Nat) (n d : Nat) : Nat := roundDiv (n * tenTo places) d

/-- Of the two neighbours of `a / b`, one that reads back as the number of
magnitude `scaled`: the nearer one when both do, the even one in a tie. -/
def readingBack (scaled : Nat) (a b : Nat) (place : Int) : Option Decimal :=
  let low := a / b
  let reads (c : Nat) : Bool := Double.ofDecimal false c place = .finite false scaled
  match reads low, reads (low + 1) with
  | true, true => some ⟨roundDiv a b, place⟩
  | true, false => some ⟨low, place⟩
  | false, true => some ⟨low + 1, place⟩
  | false, false => none

/-- The decimal of `count` digits that reads back, if there is one. -/
def withDigits? (scaled count : Nat) : Option Decimal :=
  let place := leadingPlace scaled Double.unitScale - (count : Int) + 1
  let (a, b) := inUnits scaled Double.unitScale place
  (readingBack scaled a b place).map (trimZeros (count + 1))

/-- The exact decimal expansion of `scaled / 2^places`. -/
def expansion (scaled places : Nat) : Decimal := ⟨scaled * Nat.pow 5 places, -(places : Int)⟩

/-- **Fewest digits.**  The first digit count from `count` on, `tries` of them,
at which a decimal reads back; failing that, the exact decimal expansion, which
always does. -/
def shortestFrom (scaled : Nat) : Nat → Nat → Decimal
  | 0, _ => trimZeros 1074 (expansion scaled 1074)
  | tries + 1, count => (withDigits? scaled count).getD (shortestFrom scaled tries (count + 1))

/-- The shortest decimal of the positive number `scaled / 2^1074`. -/
def shortest (scaled : Nat) : Decimal := shortestFrom scaled 17 1

end Decimal

end Recorder
