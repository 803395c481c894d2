/-
# Reading JSON

The frames of `SPEC_FULL.md` §3, the manifests of §9 and the saved buffers of
§12 are read so.

The grammar of JSON, with four decisions of its own:

* `NaN`, `Infinity` and `-Infinity` are numbers, and a number out of range is infinite;
* a number without point and exponent is whole;
* a character below `U+0020` in a string is an error, and half of a surrogate pair
  becomes `U+FFFD` (`Reader.unitChar` says what the recorder has there instead);
* of two fields with one name the last wins, in the place of the first.

A number of more than 4300 digits and too many brackets inside one another are
beyond the reader's limits, which is an error of its own kind.  Errors are met in
reading order.
-/

import Recorder.Json.Basic
import Recorder.Text.Integer

namespace Recorder

/-- A limit of the reader that a document is beyond: the digits of a whole number, or
the depth of its brackets. -/
inductive JsonLimit where
  | digits (count : Nat)
  | depth
deriving DecidableEq, Repr

def JsonLimit.message : JsonLimit → String
  | .digits count => tooManyDigitsMessage count
  | .depth => "Exceeds the limit for brackets inside one another"

/-- Why a text is no JSON document. -/
inductive JsonError where
  | malformed
  | beyond (limit : JsonLimit)
deriving DecidableEq, Repr

namespace Json
namespace Reader

def isJsonSpace (c : Char) : Bool := c == ' ' || c == '\t' || c == '\n' || c == '\r'

def skipSpace (cs : List Char) : List Char := cs.dropWhile isJsonSpace

def isAsciiDigit (c : Char) : Bool := (Text.asciiDigit? c).isSome

def hexValue? (c : Char) : Option Nat :=
  if '0' ≤ c ∧ c ≤ '9' then some (c.toNat - 48)
  else if 'a' ≤ c ∧ c ≤ 'f' then some (c.toNat - 87)
  else if 'A' ≤ c ∧ c ≤ 'F' then some (c.toNat - 55)
  else none

/-- Four hexadecimal digits. -/
def hexFour? : List Char → Option (Nat × List Char)
  | a :: b :: c :: d :: rest =>
    match hexValue? a, hexValue? b, hexValue? c, hexValue? d with
    | some w, some x, some y, some z => some (((w * 16 + x) * 16 + y) * 16 + z, rest)
    | _, _, _, _ => none
  | _ => none

/-- The character of a UTF-16 unit that follows `\u`, joined with a second unit
where the two are a surrogate pair.  Half of a pair that stands alone becomes `U+FFFD`.
In this the recorder that is described here differs: it keeps the half in its texts,
while no `Char` is one, so the texts of the two differ at such a place. -/
def unitChar (n : Nat) (rest : List Char) : Char × List Char :=
  if 0xD800 ≤ n ∧ n < 0xDC00 then
    match rest with
    | '\\' :: 'u' :: more =>
      match hexFour? more with
      | some (m, rest') =>
        if 0xDC00 ≤ m ∧ m < 0xE000 then
          (Char.ofNat (0x10000 + (n - 0xD800) * 0x400 + (m - 0xDC00)), rest')
        else ('\ufffd', rest)
      | none => ('\ufffd', rest)
    | _ => ('\ufffd', rest)
  else if 0xDC00 ≤ n ∧ n < 0xE000 then ('\ufffd', rest)
  else (Char.ofNat n, rest)

/-- The character of a one-letter escape. -/
def simpleEscape? : Char → Option Char
  | '"' => some '"'
  | '\\' => some '\\'
  | '/' => some '/'
  | 'b' => some '\x08'
  | 'f' => some '\x0c'
  | 'n' => some '\n'
  | 'r' => some '\r'
  | 't' => some '\t'
  | _ => none

/-- The rest of a string after its opening mark; `done` holds what was read, last first. -/
def readString : Nat → List Char → List Char → Except JsonError (String × List Char)
  | 0, _, _ => .error .malformed
  | fuel + 1, done, cs =>
    match cs with
    | [] => .error .malformed
    | '"' :: rest => .ok (String.ofList done.reverse, rest)
    | '\\' :: 'u' :: rest =>
      match hexFour? rest with
      | some (n, more) =>
        let (c, rest') := unitChar n more
        readString fuel (c :: done) rest'
      | none => .error .malformed
    | '\\' :: e :: rest =>
      match simpleEscape? e with
      | some c => readString fuel (c :: done) rest
      | none => .error .malformed
    | c :: rest => if c.toNat < 32 then .error .malformed else readString fuel (c :: done) rest

/-- An optional fraction: a point and at least one digit. -/
def takeFraction : List Char → Option (List Char) × List Char
  | '.' :: rest =>
    let ds := rest.takeWhile isAsciiDigit
    if ds.isEmpty then (none, '.' :: rest) else (some ds, rest.dropWhile isAsciiDigit)
  | cs => (none, cs)

/-- An optional exponent: a letter, a sign and at least one digit. -/
def takeExponent : List Char → Option Int × List Char
  | e :: rest =>
    if e = 'e' ∨ e = 'E' then
      let (negative, more) := Text.takeSign rest
      let ds := more.takeWhile isAsciiDigit
      if ds.isEmpty then (none, e :: rest)
      else (some (Text.signedOf negative (Text.ofDigits (ds.filterMap Text.asciiDigit?))),
        more.dropWhile isAsciiDigit)
    else (none, e :: rest)
  | [] => (none, [])

/-- The digits of a whole part: a single zero, or digits that start with another. -/
def takeWhole (cs : List Char) : List Char × List Char :=
  match cs with
  | '0' :: rest => (['0'], rest)
  | _ => (cs.takeWhile isAsciiDigit, cs.dropWhile isAsciiDigit)

/-- The value of a number from its parts. -/
def numberOf (negative : Bool) (whole : List Char) (fraction : Option (List Char))
    (exponent : Option Int) : Except JsonError Json :=
  let digits (ds : List Char) : Nat := Text.ofDigits (ds.filterMap Text.asciiDigit?)
  match fraction, exponent with
  | none, none =>
    if maxIntegerDigits < whole.length then .error (.beyond (.digits whole.length))
    else .ok (.int (Text.signedOf negative (digits whole)))
  | _, _ =>
    let f := fraction.getD []
    .ok (.float (.ofDecimal negative (digits (whole ++ f)) (exponent.getD 0 - f.length)))

/-- A number, after its sign. -/
def readNumber (negative : Bool) (cs : List Char) : Except JsonError (Json × List Char) :=
  let (whole, r1) := takeWhole cs
  if whole.isEmpty then .error .malformed
  else
    let (fraction, r2) := takeFraction r1
    let (exponent, r3) := takeExponent r2
    (numberOf negative whole fraction exponent).map (·, r3)

/-- A word, or the infinities and the numbers that start with a sign. -/
def readScalar (cs : List Char) : Except JsonError (Json × List Char) :=
  match cs with
  | 'n' :: 'u' :: 'l' :: 'l' :: rest => .ok (.null, rest)
  | 't' :: 'r' :: 'u' :: 'e' :: rest => .ok (.bool true, rest)
  | 'f' :: 'a' :: 'l' :: 's' :: 'e' :: rest => .ok (.bool false, rest)
  | 'N' :: 'a' :: 'N' :: rest => .ok (.float .nan, rest)
  | 'I' :: 'n' :: 'f' :: 'i' :: 'n' :: 'i' :: 't' :: 'y' :: rest =>
    .ok (.float (.infinite false), rest)
  | '-' :: 'I' :: 'n' :: 'f' :: 'i' :: 'n' :: 'i' :: 't' :: 'y' :: rest =>
    .ok (.float (.infinite true), rest)
  | '-' :: rest => readNumber true rest
  | _ => readNumber false cs

mutual

/-- A value at the head of a text, with as many brackets inside one another as there is
`room` for. -/
def readValue (room : Nat) : Nat → List Char → Except JsonError (Json × List Char)
  | 0, _ => .error .malformed
  | fuel + 1, cs =>
    match cs with
    | '"' :: rest => (readString fuel [] rest).map fun (s, r) => (.str s, r)
    | '[' :: rest =>
      match room, skipSpace rest with
      | 0, _ => .error (.beyond .depth)
      | _, ']' :: r => .ok (.arr [], r)
      | room + 1, r => (readItems room fuel r).map fun (xs, r') => (.arr xs, r')
    | '{' :: rest =>
      match room, skipSpace rest with
      | 0, _ => .error (.beyond .depth)
      | _, '}' :: r => .ok (.obj [], r)
      | room + 1, r => (readFields room fuel r).map fun (ps, r') => (.obj (Entries.ofPairs ps), r')
    | _ => readScalar cs

/-- The items of an array up to its bracket, at least one. -/
def readItems (room : Nat) : Nat → List Char → Except JsonError (List Json × List Char)
  | 0, _ => .error .malformed
  | fuel + 1, cs => do
    let (x, r) ← readValue room fuel cs
    match skipSpace r with
    | ']' :: rest => .ok ([x], rest)
    | ',' :: rest =>
      let (xs, r') ← readItems room fuel (skipSpace rest)
      .ok (x :: xs, r')
    | _ => .error .malformed

/-- The fields of an object up to its brace, at least one. -/
def readFields (room : Nat) : Nat → List Char → Except JsonError (List (String × Json) × List Char)
  | 0, _ => .error .malformed
  | fuel + 1, cs =>
    match cs with
    | '"' :: rest => do
      let (k, r) ← readString fuel [] rest
      match skipSpace r with
      | ':' :: r1 =>
        let (v, r2) ← readValue room fuel (skipSpace r1)
        match skipSpace r2 with
        | '}' :: rest' => .ok ([(k, v)], rest')
        | ',' :: rest' =>
          let (ps, r3) ← readFields room fuel (skipSpace rest')
          .ok ((k, v) :: ps, r3)
        | _ => .error .malformed
      | _ => .error .malformed
    | _ => .error .malformed

end

end Reader

/-- Reads a document with at most `room` brackets inside one another: one value, with
nothing but space around it. -/
def readWithin (room : Nat) (s : String) : Except JsonError Json :=
  let cs := s.toList
  match Reader.readValue room (2 * cs.length + 2) (Reader.skipSpace cs) with
  | .error e => .error e
  | .ok (v, rest) => if (Reader.skipSpace rest).isEmpty then .ok v else .error .malformed

/-- The greatest depth of a document's brackets. -/
def maxNesting : Nat := 980

/-- **Reading a document.** -/
def read (s : String) : Except JsonError Json := readWithin maxNesting s

end Json

end Recorder
