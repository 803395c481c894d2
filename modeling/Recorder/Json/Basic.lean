/-
# JSON values

Objects keep the order of their fields; a name that is given again keeps its
place and takes the new value (`Entries.put`).  Numbers are whole numbers of any
size or binary64 numbers, told apart by how they are written.
-/

import Recorder.Entries
import Recorder.Number.Double

namespace Recorder

/-- A JSON value. -/
inductive Json where
  | null
  | bool (b : Bool)
  | int (n : Int)
  | float (x : Double)
  | str (s : String)
  | arr (items : List Json)
  | obj (fields : List (String × Json))
deriving Repr, Inhabited

/-- The fields of an object, in order. -/
abbrev Fields := Entries Json

/-- The value of the first of several names that is present, with that name. -/
def Fields.firstOf? (fs : Fields) : List String → Option (String × Json)
  | [] => none
  | name :: names =>
    match fs.get? name with
    | some v => some (name, v)
    | none => firstOf? fs names

namespace Json

mutual

/-- Structural equality. -/
def beq : Json → Json → Bool
  | .null, .null => true
  | .bool a, .bool b => a == b
  | .int a, .int b => a == b
  | .float a, .float b => a == b
  | .str a, .str b => a == b
  | .arr xs, .arr ys => beqItems xs ys
  | .obj xs, .obj ys => beqFields xs ys
  | _, _ => false

def beqItems : List Json → List Json → Bool
  | [], [] => true
  | x :: xs, y :: ys => beq x y && beqItems xs ys
  | _, _ => false

def beqFields : List (String × Json) → List (String × Json) → Bool
  | [], [] => true
  | (k, x) :: xs, (l, y) :: ys => k == l && beq x y && beqFields xs ys
  | _, _ => false

end

instance : BEq Json := ⟨beq⟩

/-- **Emptiness.**  Null, false, zero, and what is empty count as absent wherever
a value has a fallback. -/
def isTruthy : Json → Bool
  | .null => false
  | .bool b => b
  | .int n => n != 0
  | .float x => !x.isZero
  | .str s => !s.isEmpty
  | .arr xs => !xs.isEmpty
  | .obj fs => !fs.isEmpty

/-- The fields of an object; none for any other value. -/
def fields? : Json → Option Fields
  | .obj fs => some fs
  | _ => none

/-- Whether a value is the given text. -/
def isText (text : String) : Json → Bool
  | .str s => s == text
  | _ => false

/-- Whether a value is a number, or a truth value read as one, equal to `n`. -/
def equalsInt (n : Int) : Json → Bool
  | .int m => m == n
  | .bool b => (if b then 1 else 0) == n
  | .float x => x.toInt? == some n
  | _ => false

mutual

/-- A value in which every non-finite number has become null. -/
def finiteOnly : Json → Json
  | .float x => if x.isFinite then .float x else .null
  | .arr xs => .arr (finiteItems xs)
  | .obj fs => .obj (finiteFields fs)
  | v => v

def finiteItems : List Json → List Json
  | [] => []
  | x :: xs => finiteOnly x :: finiteItems xs

def finiteFields : List (String × Json) → List (String × Json)
  | [] => []
  | (k, v) :: rest => (k, finiteOnly v) :: finiteFields rest

end

mutual

/-- How many values lie inside one another; one for a value without parts. -/
def depth : Json → Nat
  | .arr xs => depthOfItems xs + 1
  | .obj fs => depthOfFields fs + 1
  | _ => 1

def depthOfItems : List Json → Nat
  | [] => 0
  | x :: xs => max (depth x) (depthOfItems xs)

def depthOfFields : List (String × Json) → Nat
  | [] => 0
  | (_, v) :: rest => max (depth v) (depthOfFields rest)

end

/-- The greatest depth of a value of the user's own in a document. -/
def maxOwnDepth : Nat := 255

end Json

/-- A document in which a value of the user's own is too deep. -/
structure TooDeep where
deriving DecidableEq, Repr

def TooDeep.message : String := "Maximum serialization depth exceeded"

/-- Whether values of the user's own are fit for a document. -/
def Fields.isShallow (fs : Fields) : Bool := Json.depthOfFields fs ≤ Json.maxOwnDepth

end Recorder
