/-
# Sizes of log files

`SPEC_FULL.md` §9, `log_max_size`, as `parse_size` reads it.

`[blank]* integer (KB | MB | GB)? [blank]*`, in any case: a number of bytes, or
of 1024, 1024² or 1024³ bytes.  A number stands for itself.
-/

import Recorder.Json.Basic
import Recorder.Text.Blank
import Recorder.Text.Integer
import Recorder.Text.LetterCase

namespace Recorder

/-- The size at which a log file is rotated.  A truth value is kept as it is. -/
inductive SizeLimit where
  | bytes (n : Int)
  | flag (b : Bool)
deriving DecidableEq, Repr

/-- Why a value is no size. -/
inductive SizeError where
  /-- It is neither a whole number nor text. -/
  | notText
  | malformed (e : IntegerError)
deriving DecidableEq, Repr

namespace SizeLimit

def toInt : SizeLimit → Int
  | .bytes n => n
  | .flag b => if b then 1 else 0

def toJson : SizeLimit → Json
  | .bytes n => .int n
  | .flag b => .bool b

/-- The units, with their size in bytes. -/
def units : List (List Char × Nat) :=
  [(['K', 'B'], 1024), (['M', 'B'], 1024 * 1024), (['G', 'B'], 1024 * 1024 * 1024)]

/-- A text without its unit, and the size of the unit. -/
def splitUnit (cs : List Char) : List (List Char × Nat) → List Char × Nat
  | [] => (cs, 1)
  | (unit, size) :: rest =>
    match Text.dropTail? unit cs with
    | some number => (number, size)
    | none => splitUnit cs rest

/-- A size from text. -/
def ofText (s : String) : Except IntegerError Int :=
  let (number, size) := splitUnit (Text.upper (Text.trim s)).toList units
  (Text.readInteger (String.ofList number)).map (· * size)

/-- **Reading a size.**
Source: `parse_size`. -/
def read : Json → Except SizeError SizeLimit
  | .int n => .ok (.bytes n)
  | .bool b => .ok (.flag b)
  | .str s => match ofText s with
    | .ok n => .ok (.bytes n)
    | .error e => .error (.malformed e)
  | _ => .error .notText

end SizeLimit
end Recorder
