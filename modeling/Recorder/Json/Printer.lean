/-
# Writing JSON

The files that `SPEC_FULL.md` §8 and §12 have written, and the handshake of §3.

`pretty` puts every item and field on a line of its own, two spaces deeper than
its surroundings; `compact` writes one line with a space after commas and
colons.  In strings only the quotation mark, the backslash and the characters
below `U+0020` are escaped.  Non-finite numbers are `NaN`, `Infinity` and
`-Infinity`.
-/

import Recorder.Json.Basic
import Recorder.Number.Notation
import Recorder.Text.Quoted

namespace Recorder
namespace Json

/-- A character inside a string. -/
def escapeChar (c : Char) : List Char :=
  match c with
  | '"' => ['\\', '"']
  | '\\' => ['\\', '\\']
  | '\n' => ['\\', 'n']
  | '\r' => ['\\', 'r']
  | '\t' => ['\\', 't']
  | '\x0c' => ['\\', 'f']
  | '\x08' => ['\\', 'b']
  | _ => if c.toNat < 32 then '\\' :: 'u' :: Text.hexDigits 4 c.toNat else [c]

def writeString (s : String) : String :=
  String.ofList ('"' :: s.toList.flatMap escapeChar ++ ['"'])

def writeFloat : Double → String
  | .nan => "NaN"
  | .infinite false => "Infinity"
  | .infinite true => "-Infinity"
  | x => x.text

/-- A new line, indented. -/
def newLine (depth : Nat) : String := String.ofList ('\n' :: List.replicate (2 * depth) ' ')

mutual

/-- A value whose opening bracket stands at the given depth. -/
def prettyAt (depth : Nat) : Json → String
  | .null => "null"
  | .bool true => "true"
  | .bool false => "false"
  | .int n => toString n
  | .float x => writeFloat x
  | .str s => writeString s
  | .arr [] => "[]"
  | .arr (x :: xs) =>
    "[" ++ newLine (depth + 1) ++ prettyAt (depth + 1) x ++ prettyItems (depth + 1) xs ++
      newLine depth ++ "]"
  | .obj [] => "\x7b\x7d"
  | .obj ((k, v) :: fs) =>
    "\x7b" ++ newLine (depth + 1) ++ writeString k ++ ": " ++ prettyAt (depth + 1) v ++
      prettyFields (depth + 1) fs ++ newLine depth ++ "\x7d"

def prettyItems (depth : Nat) : List Json → String
  | [] => ""
  | x :: xs => "," ++ newLine depth ++ prettyAt depth x ++ prettyItems depth xs

def prettyFields (depth : Nat) : List (String × Json) → String
  | [] => ""
  | (k, v) :: fs =>
    "," ++ newLine depth ++ writeString k ++ ": " ++ prettyAt depth v ++ prettyFields depth fs

end

/-- **A document over several lines.** -/
def pretty (v : Json) : String := prettyAt 0 v

mutual

/-- **A document on one line.** -/
def compact : Json → String
  | .null => "null"
  | .bool true => "true"
  | .bool false => "false"
  | .int n => toString n
  | .float x => writeFloat x
  | .str s => writeString s
  | .arr [] => "[]"
  | .arr (x :: xs) => "[" ++ compact x ++ compactItems xs ++ "]"
  | .obj [] => "\x7b\x7d"
  | .obj ((k, v) :: fs) => "\x7b" ++ writeString k ++ ": " ++ compact v ++ compactFields fs ++ "\x7d"

def compactItems : List Json → String
  | [] => ""
  | x :: xs => ", " ++ compact x ++ compactItems xs

def compactFields : List (String × Json) → String
  | [] => ""
  | (k, v) :: fs => ", " ++ writeString k ++ ": " ++ compact v ++ compactFields fs

end

end Json
end Recorder
