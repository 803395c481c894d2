/-
# Text of binary64 numbers

| style | digits | positional | kept as |
| --- | --- | --- | --- |
| `Style.full` | shortest that read back | `10^-4 ≤ v < 10^16` | `15.0`, `1e+16`, `2.5e-07` |
| `Style.brief` | six significant | `10^-4 ≤ v < 10^6` | `15`, `1e+06`, `2.5e-07` |

An exponent has a sign and at least two digits.  `Double.twoPlaces` writes two
places after the point.  Non-finite numbers are `inf`, `-inf` and `nan`; the
sign of zero is kept.
-/

import Recorder.Number.Digits

namespace Recorder

/-- How the digits of a number are laid out. -/
structure Style where
  /-- The number of significant digits; none for the fewest that read back. -/
  significant : Option Nat
  /-- Leading places from here on are written positionally. -/
  positionalFrom : Int
  /-- Leading places from here on are written with an exponent. -/
  positionalBelow : Int
  /-- Whether a whole number keeps a point and a zero. -/
  keepPoint : Bool

namespace Style

/-- Numbers that have to read back. -/
def full : Style := ⟨none, -4, 16, true⟩

/-- Numbers in a fingerprint. -/
def brief : Style := ⟨some 6, -4, 6, false⟩

end Style

namespace Decimal

/-- The digits of a decimal. -/
def digitText (x : Decimal) : List Char := Nat.toDigits 10 x.digits

/-- The place of the leading digit. -/
def place (x : Decimal) : Int := (x.digitText.length : Int) - 1 + x.exponent

/-- `at least two digits, with a sign`: the exponent part of a number. -/
def exponentText (e : Int) : List Char :=
  let ds := Nat.toDigits 10 e.natAbs
  (if e < 0 then '-' else '+') :: (if ds.length < 2 then '0' :: ds else ds)

/-- **Layout of a decimal** in a style: positional inside the style's range, else
one digit before the point and an exponent. -/
def layout (style : Style) (x : Decimal) : List Char :=
  let ds := x.digitText
  let tail := if style.keepPoint then ['.', '0'] else []
  if style.positionalFrom ≤ x.place ∧ x.place < style.positionalBelow then
    if 0 ≤ x.exponent then ds ++ List.replicate x.exponent.toNat '0' ++ tail
    else if 0 ≤ x.place then
      ds.take (x.place.toNat + 1) ++ '.' :: ds.drop (x.place.toNat + 1)
    else '0' :: '.' :: (List.replicate ((-x.place).toNat - 1) '0' ++ ds)
  else
    let mantissa := match ds with
      | [] => []
      | [d] => [d]
      | d :: r => d :: '.' :: r
    mantissa ++ 'e' :: exponentText x.place

end Decimal

namespace Double

def signText (negative : Bool) : List Char := if negative then ['-'] else []

/-- The text of a number in a style. -/
def layout (style : Style) : Double → List Char
  | .finite s 0 => signText s ++ '0' :: (if style.keepPoint then ['.', '0'] else [])
  | .finite s n =>
    signText s ++ Decimal.layout style
      (match style.significant with
        | none => Decimal.shortest n
        | some k => Decimal.significant k n unitScale)
  | .infinite s => signText s ++ ['i', 'n', 'f']
  | .nan => ['n', 'a', 'n']

/-- **Full text:** the fewest digits that read back. -/
def text (x : Double) : String := String.ofList (layout .full x)

/-- **Brief text:** six significant digits. -/
def briefText (x : Double) : String := String.ofList (layout .brief x)

/-- **Two places** after the point, rounded on the exact value. -/
def twoPlaces : Double → String
  | .finite s n =>
    let hundredths := Decimal.fixedPlaces 2 n unitScale
    let low := hundredths % 100
    String.ofList (signText s ++ Nat.toDigits 10 (hundredths / 100) ++
      '.' :: (if low < 10 then '0' :: Nat.toDigits 10 low else Nat.toDigits 10 low))
  | .infinite s => String.ofList (signText s ++ ['i', 'n', 'f'])
  | .nan => "nan"

end Double

end Recorder
