/-
# Lenient scalars

`SPEC_FULL.md` §1, the scalar fields of the data model.

Scalars are read from everything that plainly stands for one.

| scalar | read from |
| --- | --- |
| whole number | whole numbers, truth values, whole numbers written as binary64 below `2^63`, text of ASCII digits with a sign, zeros in front and a fraction of zeros |
| binary64 | numbers in range, truth values, decimal text, `inf`, `infinity`, `nan` |
| truth value | truth values, `0` and `1`, and the words of `trueWords` and `falseWords` |
| text | text |

Text of a number may have white space around it and single low lines in it; text
of a binary64 number has one or the other.
-/

import Recorder.Schema.Checked
import Recorder.Text.Blank
import Recorder.Text.Integer

namespace Recorder
namespace Scalar

/-- An ASCII letter in lower case. -/
def asciiLower (c : Char) : Char :=
  if 'A' ≤ c ∧ c ≤ 'Z' then Char.ofNat (c.toNat + 32) else c

/-- A text without its low lines, if it has some and each stands alone between two
other characters. -/
def dropLowLines? (cs : List Char) : Option (List Char) :=
  if cs.head? == some '_' || cs.getLast? == some '_' || !cs.contains '_' ||
      Text.occursIn "__".toList cs then none
  else some (cs.filter (· != '_'))

/-! ## Whole numbers

A plain number has no superfluous character.  Any other text is cleaned up first,
and one that is too long to be plain is not cleaned up. -/

/-- A number of a minus and digits, the first of which is `0` only if it is alone.  No
more than `maxIntegerDigits` characters are read. -/
def plainInteger (cs : List Char) : Except ViolationKind Int :=
  let negative := cs.head? == some '-'
  let body := if negative then cs.drop 1 else cs
  let ds := body.takeWhile fun c => (Text.asciiDigit? c).isSome
  let digits := ds.filterMap Text.asciiDigit?
  match digits with
  | [] => .error .intParsing
  | d :: more =>
    if d = 0 then (if more.isEmpty && ds == body then .ok 0 else .error .intParsing)
    else if maxIntegerDigits < cs.length - body.length + ds.length then .error .intParsingSize
    else if ds == body then .ok (Text.signedOf negative (Text.ofDigits digits))
    else .error .intParsing

/-- What follows zeros and low lines at the head of a number: from the first other digit
on or from a minus, from the last of them before a point, or the last of them. -/
def afterZeros? (last : Char) : List Char → Option (List Char)
  | [] => some [last]
  | c :: cs =>
    if c = '0' ∨ c = '_' then afterZeros? c cs
    else if c = '.' then some (last :: c :: cs)
    else if c = '-' ∨ (Text.asciiDigit? c).isSome then some (c :: cs)
    else none

/-- A number without zeros at its head. -/
def dropZeros? : List Char → Option (List Char)
  | [] => none
  | c :: cs =>
    if c = '0' then afterZeros? c cs
    else if (Text.asciiDigit? c).isSome then some (c :: cs)
    else none

/-- The text of a whole number without a fraction of zeros. -/
def dropZeroFraction (cs : List Char) : List Char :=
  let zeros := cs.reverse.takeWhile (· == '0')
  match cs.reverse.drop zeros.length with
  | '.' :: rest => if zeros.isEmpty then cs else rest.reverse
  | _ => cs

/-- A text without white space around it, plus sign, zeros in front, fraction of zeros
and low lines. -/
def cleanInteger? (cs : List Char) : Option (List Char) :=
  let (negative, body) := Text.takeSign (Text.trimBy Text.isSpace cs)
  (dropZeros? body).map fun ds =>
    let whole := dropZeroFraction ds
    (if negative then ['-'] else []) ++ (dropLowLines? whole).getD whole

/-- **A whole number from text.** -/
def intOfText (s : String) : Except ViolationKind Int :=
  match plainInteger s.toList with
  | .error .intParsing =>
    match (cleanInteger? s.toList).map plainInteger with
    | some (.ok n) => .ok n
    | _ => .error .intParsing
  | outcome => outcome

/-- A whole number from a binary64 number. -/
def intOfDouble (x : Double) : Except ViolationKind Int :=
  match x.toInt? with
  | some n => if n.natAbs < twoTo 63 then .ok n else .error .intParsingSize
  | none => if x.isFinite then .error .intFromFloat else .error .finiteNumber

/-- **Whole numbers.** -/
def int : Json → Except ViolationKind Int
  | .int n => .ok n
  | .bool b => .ok (if b then 1 else 0)
  | .float x => intOfDouble x
  | .str s => intOfText s
  | _ => .error .intType

/-! ## Binary64 numbers -/

/-- Words for numbers that are not finite, in lower case. -/
def specialWord? (negative : Bool) (cs : List Char) : Option Double :=
  let word := String.ofList (cs.map asciiLower)
  if word = "inf" ∨ word = "infinity" then some (.infinite negative)
  else if word = "nan" then some .nan
  else none

/-- The digits at the head of a text and the rest. -/
def spanDigits (cs : List Char) : List Nat × List Char :=
  ((cs.takeWhile fun c => (Text.asciiDigit? c).isSome).filterMap Text.asciiDigit?,
    cs.dropWhile fun c => (Text.asciiDigit? c).isSome)

/-- The digits after a point, if one comes next, and the rest. -/
def spanFraction : List Char → List Nat × List Char
  | '.' :: cs => spanDigits cs
  | cs => ([], cs)

/-- The exponent of a decimal: nothing, or a letter, a sign and digits. -/
def exponent? : List Char → Option Int
  | [] => some 0
  | c :: cs =>
    if c = 'e' ∨ c = 'E' then
      let (negative, body) := Text.takeSign cs
      match spanDigits body with
      | (d :: ds, []) => some (Text.signedOf negative (Text.ofDigits (d :: ds)))
      | _ => none
    else none

/-- A decimal without a sign: digits with a point anywhere among them, and an exponent. -/
def decimal? (negative : Bool) (cs : List Char) : Option Double := do
  let (whole, r1) := spanDigits cs
  let (fraction, r2) := spanFraction r1
  if whole.isEmpty && fraction.isEmpty then none
  else
    let e ← exponent? r2
    some (.ofDecimal negative (Text.ofDigits (whole ++ fraction)) (e - fraction.length))

/-- A number with a sign or without, or the word for one that is not finite. -/
def plainDouble? (cs : List Char) : Option Double :=
  let (negative, body) := Text.takeSign cs
  (specialWord? negative body).or (decimal? negative body)

/-- **A binary64 number from text,** either with white space around it or with low lines
in it. -/
def floatOfText (s : String) : Except ViolationKind Double :=
  match (plainDouble? (Text.trimBy Text.isSpace s.toList)).or
      ((dropLowLines? s.toList).bind plainDouble?) with
  | some x => .ok x
  | none => .error .floatParsing

/-- **Binary64 numbers.** -/
def float : Json → Except ViolationKind Double
  | .float x => .ok x
  | .int n => match Double.ofInt? n with
    | some x => .ok x
    | none => .error .floatType
  | .bool b => .ok (if b then .one else .zero)
  | .str s => floatOfText s
  | _ => .error .floatType

/-! ## Truth values and text -/

def trueWords : List String := ["1", "on", "t", "true", "y", "yes"]

def falseWords : List String := ["0", "off", "f", "false", "n", "no"]

/-- **Truth values.**  A number that could be read as a whole number of 64 bits is the
wrong one, any other is no candidate at all. -/
def bool : Json → Except ViolationKind Bool
  | .bool b => .ok b
  | .int n =>
    if n = 0 then .ok false
    else if n = 1 then .ok true
    else if -(twoTo 63 : Int) ≤ n ∧ n < twoTo 63 then .error .boolParsing
    else .error .boolType
  | .float x => match intOfDouble x with
    | .ok n => if n = 0 then .ok false else if n = 1 then .ok true else .error .boolParsing
    | .error _ => .error .boolType
  | .str s =>
    let word := String.ofList (s.toList.map asciiLower)
    if word ∈ trueWords then .ok true
    else if word ∈ falseWords then .ok false
    else .error .boolParsing
  | _ => .error .boolType

/-- **Text.** -/
def text : Json → Except ViolationKind String
  | .str s => .ok s
  | _ => .error .stringType

/-- A scalar as a checked value. -/
def checked {α : Type} (read : Json → Except ViolationKind α) (v : Json) : Checked α :=
  match read v with
  | .ok a => .ok a
  | .error kind => .fail kind

/-- A scalar that may be null. -/
def optional {α : Type} (read : Json → Except ViolationKind α) : Json → Except ViolationKind (Option α)
  | .null => .ok none
  | v => (read v).map some

end Scalar
end Recorder
