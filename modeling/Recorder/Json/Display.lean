/-
# Values shown in messages and arguments

The texts that `format_argument`, `base_url` and the notices make of values.

`display` is how a value reads inside a longer text: a string as it is, any
other value as `inspect` shows it, where strings are quoted, the words are
`None`, `True` and `False`, and numbers have their full text.
-/

import Recorder.Json.Basic
import Recorder.Number.Notation
import Recorder.Text.Quoted

namespace Recorder
namespace Json

mutual

/-- A value with its strings quoted. -/
def inspect : Json → String
  | .null => "None"
  | .bool true => "True"
  | .bool false => "False"
  | .int n => toString n
  | .float x => x.text
  | .str s => Text.quoted s
  | .arr [] => "[]"
  | .arr (x :: xs) => "[" ++ inspect x ++ inspectItems xs ++ "]"
  | .obj [] => "\x7b\x7d"
  | .obj ((k, v) :: fs) =>
    "\x7b" ++ Text.quoted k ++ ": " ++ inspect v ++ inspectFields fs ++ "\x7d"

def inspectItems : List Json → String
  | [] => ""
  | x :: xs => ", " ++ inspect x ++ inspectItems xs

def inspectFields : List (String × Json) → String
  | [] => ""
  | (k, v) :: fs => ", " ++ Text.quoted k ++ ": " ++ inspect v ++ inspectFields fs

end

/-- **A value inside a longer text.** -/
def display : Json → String
  | .str s => s
  | v => inspect v

/-- A value inside a longer text, an absent one as nothing at all. -/
def displayOrEmpty (v : Option Json) : String :=
  match v with
  | some w => if w.isTruthy then w.display else ""
  | none => ""

end Json
end Recorder
