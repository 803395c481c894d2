/-
# Log files that rotate

`SPEC_FULL.md` §10, the rotating file of `setup_logging`.

A log file is moved aside before a line would bring it to its limit, even while
it is empty: `log` becomes `log.1`, `log.1` becomes `log.2`, and the last backup
is lost.  A file without backups, or with a limit that is not above zero, goes
on growing.
-/

import Recorder.Log.SizeLimit
import Recorder.Storage.FileTree

namespace Recorder

/-- A log file in a file tree. -/
structure LogFile where
  /-- The names that lead to it. -/
  names : List String
  limit : SizeLimit
  /-- How many older files are kept. -/
  backups : Int
deriving DecidableEq, Repr

namespace FileTree

/-- The bytes of the file under a row of names; none if there is no file. -/
def content (t : FileTree) (names : List String) : ByteArray :=
  match t.node? names with
  | some (.file bytes) => bytes
  | _ => .empty

/-- Moves a file, if it is there, over another one. -/
def move (t : FileTree) (source target : List String) : FileTree :=
  match t.node? source with
  | some n => (t.remove source |>.remove target).put target n
  | none => t

/-- Adds text to the end of a file, which is created if it is missing. -/
def append (t : FileTree) (names : List String) (s : String) : FileTree :=
  t.put names (.file (t.content names ++ s.toUTF8))

end FileTree

namespace LogFile

/-- **Opening** a log file: its directory and the file are created if missing. -/
def create (files : FileTree) (p : FilePath) : Except FileError (FileTree × List String) := do
  let names ← files.place p
  .ok (files.append names "", names)

/-- The names of a backup; backup zero is the file itself. -/
def backup (f : LogFile) (i : Nat) : List String :=
  if i = 0 then f.names
  else f.names.dropLast ++ [f.names.getLast?.getD "" ++ "." ++ toString i]

/-- Moves backups below `i`, and the file itself, one place on. -/
def shift (f : LogFile) (files : FileTree) : Nat → FileTree
  | 0 => files
  | i + 1 => shift f (files.move (f.backup i) (f.backup (i + 1))) i

/-- Whether a line has to go to a new file. -/
def isFull (f : LogFile) (files : FileTree) (line : String) : Bool :=
  0 < f.limit.toInt && f.limit.toInt ≤ (files.content f.names).size + line.length

/-- **Writing a line,** with the rotation that it needs. -/
def write (f : LogFile) (files : FileTree) (line : String) : FileTree :=
  let files := if f.isFull files line then f.shift files f.backups.toNat else files
  files.append f.names line

end LogFile
end Recorder
