/-
# File trees

The files that `SPEC_FULL.md` §8, §9 and §12 have read and written.

What the program sees of the file system: files and directories, each under the
row of names that leads to it from the current directory.  Above that directory
a row starts with two dots for each level, and under a root it starts with the
root; nothing is known to be there but the directories themselves.  A path is
followed name by name, two dots leading back.
-/

import Recorder.Json.Reader
import Recorder.Storage.Path

namespace Recorder

/-- A file or a directory. -/
inductive FileNode where
  | file (content : ByteArray)
  | directory

/-- Why a path cannot be used. -/
inductive FileError where
  | notFound
  | notDirectory
  | isDirectory
  | alreadyExists
  | nameTooLong
  | nullCharacter
deriving DecidableEq, Repr

/-- The complaint about a null character in a path. -/
def FileError.nullMessage : String := "embedded null byte"

/-- Why a document cannot be read from a file. -/
inductive ReadError where
  | file (e : FileError)
  /-- The content is no UTF-8 text. -/
  | notText
  | json (e : JsonError)
deriving DecidableEq, Repr

/-- Files and directories. -/
structure FileTree where
  nodes : List (List String × FileNode) := []

namespace FileTree

/-- Whether a row of names leads to a directory that is always there: the current
one, one above it, or a root. -/
def isTop (names : List String) : Bool :=
  names.all (· == "..") || names == ["/"] || names == ["//"]

/-- One name further. -/
def enter (names : List String) (name : String) : List String :=
  if name ≠ ".." then names ++ [name]
  else if names.all (· == "..") then names ++ [name]
  else if isTop names then names
  else names.dropLast

/-- What is found under a row of names. -/
def node? (t : FileTree) (names : List String) : Option FileNode :=
  if isTop names then some .directory
  else match t.nodes.find? fun n => n.1 == names with
    | some n => some n.2
    | none => if t.nodes.any fun n => names.isPrefixOf n.1 then some .directory else none

/-- Whether a row of names leads to a directory. -/
def enterable (t : FileTree) (names : List String) : Except FileError Unit :=
  match t.node? names with
  | some .directory => .ok ()
  | some (.file _) => .error .notDirectory
  | none => .error .notFound

/-- The greatest size of a name, and of the text of a path, in bytes. -/
def maxNameSize : Nat := 255
def maxPathSize : Nat := 4095

/-- Follows names from a place that has to be a directory. -/
def followFrom (t : FileTree) (place : List String) : List String → Except FileError (List String)
  | [] => .ok place
  | name :: rest => do
    t.enterable place
    if maxNameSize < name.utf8ByteSize then throw .nameTooLong
    followFrom t (enter place name) rest

/-- Where a path starts. -/
def startOf (p : FilePath) : List String := if p.root.isEmpty then [] else [p.root]

/-- What makes a path unusable wherever it may lead. -/
def usable (p : FilePath) : Except FileError Unit :=
  if p.text.toList.contains '\x00' then .error .nullCharacter
  else if maxPathSize < p.text.utf8ByteSize then .error .nameTooLong
  else .ok ()

/-- **Following a path.** -/
def find (t : FileTree) (p : FilePath) : Except FileError FileNode := do
  usable p
  match t.node? (← t.followFrom (startOf p) p.names) with
  | some n => .ok n
  | none => .error .notFound

/-- What there is at a path; nothing where it leads nowhere.  Only a name that is too
long is an error. -/
def look (t : FileTree) (p : FilePath) : Except FileError (Option FileNode) :=
  match t.find p with
  | .ok n => .ok (some n)
  | .error .nameTooLong => .error .nameTooLong
  | .error _ => .ok none

def isFile (t : FileTree) (p : FilePath) : Except FileError Bool :=
  (t.look p).map fun n => match n with
    | some (.file _) => true
    | _ => false

def isDirectory (t : FileTree) (p : FilePath) : Except FileError Bool :=
  (t.look p).map fun n => match n with
    | some .directory => true
    | _ => false

def isThere (t : FileTree) (p : FilePath) : Except FileError Bool :=
  (t.look p).map Option.isSome

/-- The content of a file. -/
def readBytes (t : FileTree) (p : FilePath) : Except FileError ByteArray := do
  match ← t.find p with
  | .file content => .ok content
  | .directory => .error .isDirectory

/-- The document in a file. -/
def readJson (t : FileTree) (p : FilePath) : Except ReadError Json := do
  let content ← (t.readBytes p).mapError .file
  match String.fromUTF8? content with
  | none => .error .notText
  | some s => (Json.read s).mapError .json

/-! ## Writing -/

/-- Sets a file. -/
def put (t : FileTree) (names : List String) (node : FileNode) : FileTree :=
  if t.nodes.any fun n => n.1 == names then
    ⟨t.nodes.map fun n => if n.1 == names then (names, node) else n⟩
  else ⟨t.nodes ++ [(names, node)]⟩

/-- Removes a file. -/
def remove (t : FileTree) (names : List String) : FileTree :=
  ⟨t.nodes.filter fun n => !(n.1 == names)⟩

/-- Creates a directory in one that is there. -/
def makeOne (t : FileTree) (p : FilePath) : Except FileError FileTree := do
  usable p
  t.enterable (← t.followFrom (startOf p) p.parent.names)
  if p.names.isEmpty || p.name = ".." then throw .alreadyExists
  let names ← t.followFrom (startOf p) p.names
  if (t.node? names).isSome then throw .alreadyExists
  .ok (t.put names .directory)

/-- Creates a directory in one that is there, unless it is there itself. -/
def ensureOne (t : FileTree) (p : FilePath) : Except FileError FileTree :=
  match t.makeOne p with
  | .ok t => .ok t
  | .error .notFound => .error .notFound
  | .error e => do if ← t.isDirectory p then .ok t else .error e

/-- Creates a directory, and where its way leads nowhere first those above it, of which
there are up to `n`.  Two dots lead back only from a directory that is there, so what
comes before them is created too. -/
def ensureWay (t : FileTree) : Nat → FilePath → Except FileError FileTree
  | 0, p => t.ensureOne p
  | n + 1, p =>
    match t.ensureOne p with
    | .error .notFound => do (← t.ensureWay n p.parent).ensureOne p
    | outcome => outcome

/-- **Creating a directory** and those above it. -/
def makeDirectory (t : FileTree) (p : FilePath) : Except FileError FileTree :=
  t.ensureWay p.names.length p

/-- Where a file that is to be written lies. -/
def place (t : FileTree) (p : FilePath) : Except FileError (List String) := do
  usable p
  t.enterable (← t.followFrom (startOf p) p.parent.names)
  let names ← t.followFrom (startOf p) p.names
  match t.node? names with
  | some .directory => .error .isDirectory
  | _ => .ok names

/-- **Writing a text file,** with the directories it needs. -/
def writeText (t : FileTree) (p : FilePath) (s : String) : Except FileError FileTree := do
  let t ← t.makeDirectory p.parent
  let names ← t.place p
  .ok (t.put names (.file s.toUTF8))

/-! ## Listing -/

/-- The files under the current directory, each with its path. -/
def files (t : FileTree) : Entries ByteArray :=
  t.nodes.filterMap fun (names, n) =>
    match n with
    | .file content =>
      if names.head?.any fun name => name == ".." || name == "/" || name == "//" then none
      else some ("/".intercalate names, content)
    | .directory => none

end FileTree
end Recorder
