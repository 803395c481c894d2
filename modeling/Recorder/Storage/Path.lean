/-
# Paths

A path is a row of names under a root.  Empty names and single dots are dropped
when it is read; two dots stay.  Exactly two slashes in front are a root of
their own, any other number is one slash.

| text | shown |
| --- | --- |
| `./a//b/` | `a/b` |
| `/a/../b/.` | `/a/../b` |
| `///a` | `/a` |
| `//a` | `//a` |
| nothing at all | `.` |
-/

import Recorder.Text.Ranges

namespace Recorder

/-- A path in normal form. -/
structure FilePath where
  /-- What stands in front: nothing, one slash or two. -/
  root : String := ""
  names : List String := []
deriving DecidableEq, Repr

namespace FilePath

/-- The root of a text, by the slashes in front of it. -/
def rootOf (cs : List Char) : String :=
  match (cs.takeWhile (· == '/')).length with
  | 0 => ""
  | 2 => "//"
  | _ => "/"

/-- **Reading a path.** -/
def ofString (s : String) : FilePath :=
  let names := (Text.splitBy (· == '/') s.toList).map String.ofList
  ⟨rootOf s.toList, names.filter fun n => !n.isEmpty && n != "."⟩

/-- A path that may be left out, which it is when it is empty. -/
def given? (s : Option String) : Option FilePath :=
  match s with
  | some v => if v.isEmpty then none else some (ofString v)
  | none => none

/-- **The text of a path.** -/
def text (p : FilePath) : String :=
  if p.root.isEmpty && p.names.isEmpty then "." else p.root ++ "/".intercalate p.names

/-- The current directory. -/
def current : FilePath := {}

/-- A path inside a directory. -/
def child (p : FilePath) (name : String) : FilePath := ⟨p.root, p.names ++ [name]⟩

/-- The directory that a path is in. -/
def parent (p : FilePath) : FilePath := ⟨p.root, p.names.dropLast⟩

/-- The last name of a path, empty if there is none. -/
def name (p : FilePath) : String := p.names.getLast?.getD ""

/-- Another path in the same directory. -/
def sibling (p : FilePath) (name : String) : FilePath := p.parent.child name

end FilePath
end Recorder
