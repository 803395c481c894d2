/-
# Configured endpoints

`SPEC_FULL.md` §9, `load_connection_options`.

Endpoints come from a file, or else from the manifest's list of recorders, or
else there is one at the manifest's server.  A text is the base URL of an
endpoint.  Entries that are no endpoints are skipped.
-/

import Recorder.Config.Manifest
import Recorder.Endpoint.Options
import Recorder.Json.Table

namespace Recorder

/-- Why endpoints cannot be listed. -/
inductive EndpointsError where
  | read (e : ReadError)
  /-- An object is needed, and there is another value. -/
  | notObject
  /-- A list is needed, and the value cannot be gone through. -/
  | notIterable
deriving DecidableEq, Repr

/-- The endpoints that were found, and the entries that are none. -/
structure Endpoints where
  endpoints : List Endpoint := []
  skipped : List Json := []

namespace Endpoints

/-- The items of a value that has to be gone through. -/
def itemsOf (v : Json) : Except EndpointsError (List Json) :=
  match v.items? with
  | some xs => .ok xs
  | none => .error .notIterable

/-- The entries of a file: a list, or the recorders of an object. -/
def fileEntries (document : Json) : Except EndpointsError (List Json) :=
  match document with
  | .arr xs => .ok xs
  | .obj fs => itemsOf ((Entries.get? fs "recorders").getD (.arr []))
  | _ => .error .notObject

/-- The entries of a manifest: its recorders, or its server. -/
def manifestEntries (manifest : Json) : Except EndpointsError (List Json) :=
  match manifest.fields? with
  | none => .error .notObject
  | some fs =>
    let recorders := (fs.get? "recorders").getD .null
    if recorders.isTruthy then itemsOf recorders
    else match Manifest.serverUrl manifest with
      | .error _ => .error .notObject
      | .ok url => .ok (if url.isEmpty then [] else [.obj [("url", .str url)]])

/-- The entries that are configured. -/
def entries (files : FileTree) (path : Option FilePath) (manifest : Json) :
    Except EndpointsError (List Json) :=
  match path with
  | some p => do
    if ← (files.isThere p).mapError fun e => .read (.file e) then
      let document ← (files.readJson p).mapError .read
      fileEntries document
    else manifestEntries manifest
  | none => manifestEntries manifest

/-- A text is the base URL of an endpoint. -/
def expandEntry : Json → Json
  | .str s => .obj [("url", .str s)]
  | v => v

/-- Sorts entries into endpoints and others, keeping their order. -/
def ofEntries : List Json → Endpoints
  | [] => {}
  | v :: vs =>
    let rest := ofEntries vs
    match Endpoint.check (expandEntry v) with
    | .ok e => { rest with endpoints := e :: rest.endpoints }
    | .error _ => { rest with skipped := expandEntry v :: rest.skipped }

/-- **Listing the configured endpoints.**
Source: `load_connection_options`. -/
def load (files : FileTree) (path : Option FilePath) (manifest : Json) :
    Except EndpointsError Endpoints :=
  (entries files path manifest).map ofEntries

/-- What is reported of the entries that are skipped. -/
def notices (e : Endpoints) : List Notice := e.skipped.map fun v => .entrySkipped v.inspect

end Endpoints
end Recorder
