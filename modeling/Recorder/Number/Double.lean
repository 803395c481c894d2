/-
# Binary64 numbers

A finite binary64 number is a whole multiple of `2^-1074`, the smallest positive
one.  It is kept as its sign and that multiple, so equal numbers have equal
representations (the two zeros apart) and every question about them is one
about natural numbers.

| constructor | value |
| --- | --- |
| `finite s n` | `± n / 2^1074` |
| `infinite s` | `± ∞` |
| `nan` | not a number |

Numbers enter by rounding an exact quotient (`ofRatio`, `ofInt?`, `ofDecimal`):
to the nearest number with 53 significant bits, a tie to the even one, and to
infinity from `2^1024 - 2^970` on.
-/

namespace Recorder

/-- A binary64 number. -/
inductive Double where
  /-- `± scaled / 2^1074`. -/
  | finite (negative : Bool) (scaled : Nat)
  | infinite (negative : Bool)
  | nan
deriving DecidableEq, Repr, Inhabited

/-- A power of two. -/
def twoTo (n : Nat) : Nat := Nat.pow 2 n

/-- A power of ten. -/
def tenTo (n : Nat) : Nat := Nat.pow 10 n

/-- **Rounded quotient.**  The whole number nearest to `n / d`, a tie going to
the even neighbour. -/
def roundDiv (n d : Nat) : Nat :=
  let q := n / d
  let r := n % d
  if 2 * r < d then q
  else if d < 2 * r then q + 1
  else q + q % 2

theorem div_le_roundDiv (n d : Nat) : n / d ≤ roundDiv n d := by
  simp only [roundDiv]; split
  · exact Nat.le_refl _
  · split <;> omega

theorem roundDiv_le (n d : Nat) : roundDiv n d ≤ n / d + 1 := by
  simp only [roundDiv]; split
  · omega
  · split <;> omega

theorem roundDiv_one (n : Nat) : roundDiv n 1 = n := by
  simp [roundDiv, Nat.mod_one]

namespace Double

/-- How many of the smallest positive number make one. -/
def unitScale : Nat := twoTo 1074

/-- The first multiple of `2^-1074` that lies beyond every finite number: `2^1024`. -/
def overflowScale : Nat := twoTo 2098

/-- `a / d`, counted in multiples of `2^-1074`, rounded to 53 significant bits. -/
def roundScaled (a d : Nat) : Nat :=
  let whole := a / d
  if whole < twoTo 53 then roundDiv a d
  else
    let shift := whole.log2 + 1 - 53
    roundDiv a (d * twoTo shift) * twoTo shift

/-- The number of magnitude `scaled / 2^1074`, infinite when that is out of range. -/
def ofScaled (negative : Bool) (scaled : Nat) : Double :=
  if scaled < overflowScale then .finite negative scaled else .infinite negative

/-- **Correct rounding.**  The number nearest to `± n / d`. -/
def ofRatio (negative : Bool) (n d : Nat) : Double :=
  ofScaled negative (roundScaled (n * unitScale) d)

/-- The number nearest to a whole number, if that is finite. -/
def ofInt? (n : Int) : Option Double :=
  match ofRatio (n < 0) n.natAbs 1 with
  | .finite s k => some (.finite s k)
  | _ => none

def zero : Double := .finite false 0
def one : Double := .finite false unitScale

/-- How many decimal digits a natural number has; zero has one. -/
def digitCount (n : Nat) : Nat := (Nat.toDigits 10 n).length

/-- **Reading a decimal.**  The number nearest to `± digits · 10^exponent`.
Decimals far outside the range are settled by their size, so no huge power is
ever built. -/
def ofDecimal (negative : Bool) (digits : Nat) (exponent : Int) : Double :=
  if digits = 0 then .finite negative 0
  else
    let size : Int := digitCount digits + exponent
    if 330 < size then .infinite negative
    else if size < -360 then .finite negative 0
    else if 0 ≤ exponent then ofRatio negative (digits * tenTo exponent.toNat) 1
    else ofRatio negative digits (tenTo (-exponent).toNat)

def isFinite : Double → Bool
  | .finite _ _ => true
  | _ => false

/-- Both zeros count as zero. -/
def isZero : Double → Bool
  | .finite _ 0 => true
  | _ => false

/-- The whole number that a finite number without a fraction is. -/
def toInt? : Double → Option Int
  | .finite s n =>
    if n % unitScale = 0 then
      some (if s then -((n / unitScale : Nat) : Int) else ((n / unitScale : Nat) : Int))
    else none
  | _ => none

/-- Strictly above zero; a NaN is not. -/
def isPositive : Double → Bool
  | .finite s n => !s && n != 0
  | .infinite s => !s
  | .nan => false

end Double

end Recorder
