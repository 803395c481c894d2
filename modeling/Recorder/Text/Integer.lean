/-
# Reading whole numbers

The numbers of `parse_size` and of `RecorderConfig.from_env` (`SPEC_FULL.md`
§9).

`[space]* [+-]? digits [space]*`, where single low lines may stand between
digits and digits may be those of any script.  A number of more than 4300 digits
is refused as soon as its digits end, whatever follows them.
-/

import Recorder.Text.Blank
import Recorder.Text.Digit
import Recorder.Text.Quoted

namespace Recorder

/-- Why a text is no whole number. -/
inductive IntegerError where
  | malformed (text : String)
  | tooManyDigits (count : Nat)
deriving DecidableEq, Repr

/-- The greatest number of digits that a number is read from. -/
def maxIntegerDigits : Nat := 4300

/-- The complaint about a number of too many digits. -/
def tooManyDigitsMessage (count : Nat) : String :=
  "Exceeds the limit (4300 digits) for integer string conversion: value has " ++ toString count ++
    " digits; use sys.set_int_max_str_digits() to increase the limit"

/-- How much of a text a complaint shows, quotes included. -/
def shownLength : Nat := 200

def IntegerError.message : IntegerError → String
  | .malformed text =>
    "invalid literal for int() with base 10: " ++
      String.ofList ((Text.quoted text).toList.take shownLength)
  | .tooManyDigits count => tooManyDigitsMessage count

namespace Text

/-- Digit values with single low lines between them; at least one digit. -/
def groupedDigits? (value? : Char → Option Nat) : List Char → Option (List Nat)
  | [] => none
  | [c] => (value? c).map ([·])
  | c :: '_' :: cs => (value? c).bind fun d => (groupedDigits? value? cs).map (d :: ·)
  | c :: c' :: cs => (value? c).bind fun d => (groupedDigits? value? (c' :: cs)).map (d :: ·)

/-- Takes a sign off a text; `true` for minus. -/
def takeSign : List Char → Bool × List Char
  | '-' :: cs => (true, cs)
  | '+' :: cs => (false, cs)
  | cs => (false, cs)

/-- The whole number of a sign and digits. -/
def signedOf (negative : Bool) (n : Nat) : Int := if negative then -(n : Int) else n

/-- **Reading a whole number.** -/
def readInteger (s : String) : Except IntegerError Int :=
  let (negative, body) := takeSign (s.toList.dropWhile isSpace)
  let isPart (c : Char) : Bool := (digitValue? c).isSome || c == '_'
  match groupedDigits? digitValue? (body.takeWhile isPart) with
  | none => .error (.malformed s)
  | some ds =>
    if maxIntegerDigits < ds.length then .error (.tooManyDigits ds.length)
    else if (body.dropWhile isPart).all isSpace then .ok (signedOf negative (ofDigits ds))
    else .error (.malformed s)

end Text
end Recorder
