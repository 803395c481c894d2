/-
# Saved buffers

`SPEC_FULL.md` §0, the codec of `buffers.json`: `dump_buffers` and
`load_buffers`.

The buffers of a recording are saved with the settings of their endpoints, so
that the recording can be compiled again:

`{"savedAt": …, "connections": {base URL: {"options": {…}, "events": […]}}}`

Every buffer needs an endpoint whose settings can be saved.  A saved entry whose settings
have no `baseUrl` takes its key for it.
-/

import Recorder.Endpoint.Options
import Recorder.Event.Writing
import Recorder.Json.Table
import Recorder.Text.Quoted
import Recorder.Timeline.Merge

namespace Recorder

/-- Why a document holds no saved buffers. -/
inductive BuffersError where
  /-- The document, its connections or an entry is no object. -/
  | notObject
  /-- The settings of an entry are no table. -/
  | notTable (cause : TableError)
  /-- The settings of an entry are invalid. -/
  | invalid (violations : List Violation)
  /-- The events of an entry cannot be gone through. -/
  | eventsNotIterable
deriving DecidableEq, Repr

/-- Why buffers cannot be saved. -/
inductive SaveError where
  /-- The driver parameters of an endpoint are too deep. -/
  | tooDeep (e : TooDeep)
  /-- There are no settings for a buffer. -/
  | noEndpoint (url : String)
deriving DecidableEq, Repr

def SaveError.message : SaveError → String
  | .tooDeep _ => TooDeep.message
  | .noEndpoint url => Text.quoted url

/-- The endpoint of a saved connection, with the messages it had taken in. -/
structure SavedConnection where
  endpoint : Endpoint
  events : List Json
deriving Repr

namespace Buffers

/-- The saved form of one connection. -/
def dumpEntry (e : Endpoint) (events : List Event) : Except TooDeep Json :=
  e.save.map fun options => .obj [("options", options), ("events", .arr (events.map Event.encode))]

/-- The saved forms of connections.  The first buffer that has no endpoint, or one that cannot
be saved, ends the row. -/
def dumpEntries (endpoints : Entries Endpoint) :
    Snapshots → Except SaveError (List (String × Json))
  | [] => .ok []
  | (url, events) :: rest =>
    match endpoints.get? url with
    | none => .error (.noEndpoint url)
    | some e => do
      let entry ← (dumpEntry e events).mapError .tooDeep
      let entries ← dumpEntries endpoints rest
      .ok ((url, entry) :: entries)

/-- **Saving buffers,** each with its endpoint.
Source: `dump_buffers`. -/
def dump (savedAt : String) (buffers : Snapshots) (endpoints : Entries Endpoint) :
    Except SaveError Json :=
  (dumpEntries endpoints buffers).map fun entries =>
    .obj [("savedAt", .str savedAt), ("connections", .obj entries)]

/-- The text fields of a table. -/
def textFields (t : Table) : Fields :=
  t.filterMap fun (k, v) => match k with
    | .str s => some (s, v)
    | _ => none

/-- The settings of an entry, its key standing in for a missing `baseUrl`. -/
def optionsOf (url : String) (fs : Fields) : Except BuffersError Fields := do
  let given := match fs.get? "options" with
    | some v => if v.isTruthy then v else .obj []
    | none => .obj []
  let options := textFields (← (Table.ofJson given).mapError .notTable)
  .ok (if options.has "baseUrl" then options else options ++ [("baseUrl", .str url)])

/-- The messages of an entry. -/
def eventsOf (fs : Fields) : Except BuffersError (List Json) :=
  match fs.get? "events" with
  | none => .ok []
  | some v =>
    if !v.isTruthy then .ok []
    else match v.items? with
      | some xs => .ok xs
      | none => .error .eventsNotIterable

/-- One saved connection. -/
def loadEntry (url : String) : Json → Except BuffersError SavedConnection
  | .obj fs => do
    let options ← optionsOf url fs
    let endpoint ← (Endpoint.check (.obj options)).mapError .invalid
    let events ← eventsOf fs
    .ok ⟨endpoint, events⟩
  | _ => .error .notObject

def loadEntries : List (String × Json) → Except BuffersError (List SavedConnection)
  | [] => .ok []
  | (url, v) :: rest => do
    let entry ← loadEntry url v
    let entries ← loadEntries rest
    .ok (entry :: entries)

/-- **Loading saved buffers,** in the order of the document.
Source: `load_buffers`. -/
def load (document : Json) : Except BuffersError (List SavedConnection) := do
  match document.fields? with
  | none => .error .notObject
  | some fs => match (fs.get? "connections").getD (.obj []) with
    | .obj connections => loadEntries connections
    | _ => .error .notObject

end Buffers
end Recorder
