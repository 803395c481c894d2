/-
# Project manifests

`SPEC_FULL.md` §9: `load_manifest`, `BASE_MANIFEST` and `g4_endpoint`.

A project keeps its manifest in `src/manifest.json`.  A manifest that is
missing, cannot be read or is no object is replaced by the standard one; a file
that is no UTF-8 text, one beyond the limits of reading and a path that cannot be one
are errors.
-/

import Recorder.Json.Display
import Recorder.Log.Notice
import Recorder.Storage.FileTree

namespace Recorder
namespace Manifest

/-- **The standard manifest.**
Source: `BASE_MANIFEST`. -/
def standard : Json := .obj [
    ("g4Server", .obj [("schema", .str "http"), ("host", .str "localhost"), ("port", .str "9944")]),
    ("authentication", .obj [("password", .null), ("token", .str ""), ("username", .null)]),
    ("driverParameters", .obj [("driver", .str "ChromeDriver"),
      ("driverBinaries", .str "http://localhost:4444/wd/hub")]),
    ("settings", .obj [
      ("automationSettings", .obj [("loadTimeout", .int 60000), ("maxParallel", .int 1),
        ("returnFlatResponse", .bool true), ("returnStructuredResponse", .bool true),
        ("searchTimeout", .int 15000)]),
      ("environmentsSettings", .obj [("defaultEnvironment", .str "SystemParameters"),
        ("environmentVariables", .null), ("returnEnvironment", .bool false)]),
      ("exceptionsSettings", .obj [("returnExceptions", .bool true)])])]

/-- The file of the manifest: a file itself, or the one inside a project directory,
which may be the source directory already. -/
def fileOf (files : FileTree) (p : FilePath) : Except FileError FilePath :=
  (files.isFile p).map fun found =>
    if found then p
    else if p.name = "src" then p.child "manifest.json"
    else (p.child "src").child "manifest.json"

/-- What an unreadable manifest does to loading. -/
inductive LoadError where
  | notText
  | beyond (limit : JsonLimit)
  | file (e : FileError)
deriving DecidableEq, Repr

/-- **What a manifest file gives:** its object, or what stands in for it. -/
def ofReading (fallback : Option Json) : Except ReadError Json → Except LoadError (Option Json)
  | .ok (.obj fs) => .ok (some (.obj fs))
  | .ok _ => .ok fallback
  | .error .notText => .error .notText
  | .error (.json (.beyond limit)) => .error (.beyond limit)
  | .error (.file .nullCharacter) => .error (.file .nullCharacter)
  | .error _ => .ok fallback

/-- What is reported of a manifest file. -/
def readingNotices (path : FilePath) : Except ReadError Json → List Notice
  | .ok (.obj _) => []
  | .ok _ => [.manifestNotObject path.text]
  | .error (.json .malformed) => [.manifestUnreadable path.text]
  | .error (.file .notFound) | .error (.file .nullCharacter) => []
  | .error (.file _) => [.manifestUnreadable path.text]
  | .error _ => []

/-- The manifest file that is looked for: the given one, or that of the current project. -/
def candidate (files : FileTree) (path : Option FilePath) : Except FileError FilePath :=
  fileOf files (path.getD .current)

/-- **Loading a manifest.**
Source: `load_manifest`. -/
def load (files : FileTree) (path : Option FilePath) (useDefault : Bool) :
    Except LoadError (Option Json) := do
  let file ← (candidate files path).mapError .file
  ofReading (if useDefault then some standard else none) (files.readJson file)

/-- What loading a manifest reports. -/
def loadNotices (files : FileTree) (path : Option FilePath) : List Notice :=
  match candidate files path with
  | .ok file => readingNotices file (files.readJson file)
  | .error _ => []

/-- A manifest that is no object where one is needed. -/
structure NotObject where
deriving DecidableEq, Repr

/-- **The address of the manifest's server,** `schema://host:port`; empty when it
names none.
Source: `g4_endpoint`. -/
def serverUrl (manifest : Json) : Except NotObject String :=
  let part (fs : Fields) (name fallback : String) : String :=
    ((fs.get? name).getD (.str fallback)).display
  if !manifest.isTruthy then .ok ""
  else match manifest.fields? with
    | none => .error {}
    | some fields =>
      let server := (fields.get? "g4Server").getD .null
      if !server.isTruthy then .ok ""
      else match server.fields? with
        | some fs =>
          .ok (part fs "schema" "http" ++ "://" ++ part fs "host" "localhost" ++ ":" ++
            part fs "port" "9944")
        | none => .error {}

end Manifest
end Recorder
