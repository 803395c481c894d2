/-
# Values as tables

What `BaseConfig.from_manifest` (`SPEC_FULL.md` §6) and `load_buffers` make of
values.

A value can stand for a table of keys and values in two ways: an object is one,
and so is a sequence of pairs.  A text counts as the sequence of its characters
and an object inside the sequence as that of its names.  Keys need not be text;
keys that are equal as numbers are one key.
-/

import Recorder.Json.Basic

namespace Recorder

/-- Why a value is no table. -/
inductive TableError where
  /-- Neither a sequence nor an object. -/
  | notIterable
  /-- An item of the sequence is no sequence. -/
  | itemNotSequence (index : Nat)
  /-- An item of the sequence is no pair. -/
  | itemLength (index length : Nat)
  /-- A key that is itself an array or an object. -/
  | keyNotScalar
deriving DecidableEq, Repr

/-- Keys with values, keys being scalars. -/
abbrev Table := List (Json × Json)

namespace Json

/-- The items of a value that can be gone through. -/
def items? : Json → Option (List Json)
  | .arr xs => some xs
  | .str s => some (s.toList.map fun c => .str (String.ofList [c]))
  | .obj fs => some (fs.map fun p => .str p.1)
  | _ => none

def isScalar : Json → Bool
  | .arr _ => false
  | .obj _ => false
  | _ => true

/-- The whole number that a scalar equals, truth values counting as `0` and `1`. -/
def wholeNumber? : Json → Option Int
  | .int n => some n
  | .bool b => some (if b then 1 else 0)
  | .float x => x.toInt?
  | _ => none

/-- Whether two scalars are the same key. -/
def sameKey (a b : Json) : Bool :=
  match a.wholeNumber?, b.wholeNumber? with
  | some m, some n => m == n
  | none, none => a == b
  | _, _ => false

end Json

namespace Table

/-- Sets a key; a known key keeps its place. -/
def put : Table → Json → Json → Table
  | [], key, v => [(key, v)]
  | (k, w) :: rest, key, v => if k.sameKey key then (k, v) :: rest else (k, w) :: put rest key v

/-- The table of a sequence of pairs, from item `index` on. -/
def ofItems (index : Nat) (table : Table) : List Json → Except TableError Table
  | [] => .ok table
  | x :: xs =>
    match x.items? with
    | none => .error (.itemNotSequence index)
    | some [k, v] => if k.isScalar then ofItems (index + 1) (table.put k v) xs else .error .keyNotScalar
    | some ys => .error (.itemLength index ys.length)

/-- **The table that a value stands for.** -/
def ofJson : Json → Except TableError Table
  | .obj fs => .ok (fs.map fun p => (.str p.1, p.2))
  | v => match v.items? with
    | some xs => ofItems 0 [] xs
    | none => .error .notIterable

end Table

namespace TableError

/-- The complaint about an item that is no pair. -/
def lengthMessage (index length : Nat) : String :=
  "dictionary update sequence element #" ++ toString index ++ " has length " ++ toString length ++
    "; 2 is required"

end TableError

end Recorder
