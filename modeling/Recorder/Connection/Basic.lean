/-
# Connections

`SPEC_FULL.md` §3, `EventConnection`: `ingest`, `handle_frames` and
`complete_handshake`.

A connection listens to one endpoint and keeps the events it decodes, in order
of arrival.  A hub sends text frames; a frame is a row of JSON records, each
ended by a record separator.

| record | meaning |
| --- | --- |
| `{"type": 1, "target": …, "arguments": […]}` | events, when the target is the endpoint's |
| `{"type": 7, "error": …}` | the hub closes the connection |
| any other, blank or malformed | nothing |

A record beyond the limits of reading is the only one that stops a frame.
-/

import Recorder.Endpoint.Options
import Recorder.Event.Reading
import Recorder.Json.Reader
import Recorder.Log.Notice

namespace Recorder

inductive ConnectionState where
  | connecting
  | connected
  | reconnecting
  | disconnected
deriving DecidableEq, Repr

def ConnectionState.name : ConnectionState → String
  | .connecting => "connecting"
  | .connected => "connected"
  | .reconnecting => "reconnecting"
  | .disconnected => "disconnected"

/-- One channel to a recorder endpoint. -/
structure Connection where
  endpoint : Endpoint
  state : ConnectionState := .disconnected
  /-- Decoded events, in order of arrival. -/
  buffer : List Event := []
deriving Repr

/-- What a record of a frame asks for. -/
inductive HubMessage where
  | events (payloads : List Json)
  | close (reason : String)
  | nothing

/-- The character that ends a record. -/
def recordSeparator : Char := '\x1e'

/-- The records of a frame. -/
def recordsOf (frame : String) : List String :=
  (Text.splitBy (· == recordSeparator) frame.toList).map String.ofList

namespace HubMessage

/-- The message of a record that is an object. -/
def ofFields (target : String) (fs : Fields) : HubMessage :=
  let type := (fs.get? "type").getD .null
  if type.equalsInt 1 && (fs.get? "target").any (·.isText target) then
    match fs.get? "arguments" with
    | some (.arr payloads) => .events payloads
    | _ => .nothing
  else if type.equalsInt 7 then
    .close (match fs.get? "error" with
      | some v => if v.isTruthy then v.display else "no error"
      | none => "no error")
  else .nothing

/-- **The message of a record.** -/
def ofRecord (target record : String) : Except JsonLimit HubMessage :=
  if Text.allBlank record then .ok .nothing
  else match Json.read record with
    | .error (.beyond limit) => .error limit
    | .error .malformed => .ok .nothing
    | .ok (.obj fs) => .ok (ofFields target fs)
    | .ok _ => .ok .nothing

end HubMessage

namespace Connection

def url (c : Connection) : String := c.endpoint.baseUrl

def isConnected (c : Connection) : Bool := c.state = .connected

/-- How a connection is shown in messages. -/
def display (c : Connection) : String :=
  "EventConnection(" ++ Text.quoted c.url ++ ", state=" ++ c.state.name ++ ", buffered=" ++
    toString c.buffer.length ++ ")"

def isHttp (cs : List Char) : Bool := Text.agreesText ['h', 't', 't', 'p'] (cs.take 4)

/-- **The address of the hub:** the base URL without slashes at its end, then the
hub path; `http` at the front, in any case, becomes `ws`.
Source: `EventConnection.hub_url`. -/
def hubUrl (c : Connection) : String :=
  let base := (c.url.toList.reverse.dropWhile (· == '/')).reverse
  let full := base ++ c.endpoint.hubPath.toList
  String.ofList (if isHttp full then 'w' :: 's' :: full.drop 4 else full)

/-- Forgets all events. -/
def clear (c : Connection) : Connection := { c with buffer := [] }

/-- **Taking in one message.**  What does not decode leaves no trace.
Source: `EventConnection.ingest`. -/
def ingest (c : Connection) (payload : Json) : Connection :=
  { c with buffer := c.buffer ++ (Event.decode? payload).toList }

def ingestAll (c : Connection) (payloads : List Json) : Connection := payloads.foldl ingest c

@[simp] theorem buffer_ingestAll (c : Connection) (payloads : List Json) :
    (c.ingestAll payloads).buffer = c.buffer ++ payloads.filterMap Event.decode? := by
  induction payloads generalizing c with
  | nil => simp [ingestAll]
  | cons p ps ih =>
    have := ih (c.ingest p)
    simp only [ingestAll, List.foldl_cons] at this ⊢
    rw [this]
    cases h : Event.decode? p <;> simp [ingest, h]

/-- What a frame did: the connection after it, the notices, and whether the
connection stays open, or what stopped the frame. -/
structure Handled where
  connection : Connection
  notices : List Notice := []
  result : Except JsonLimit Bool

/-- The records of a frame, one after the other. -/
def handleRecords (c : Connection) : List String → Handled
  | [] => { connection := c, result := .ok true }
  | r :: rs =>
    match HubMessage.ofRecord c.endpoint.eventTarget r with
    | .error e => { connection := c, result := .error e }
    | .ok .nothing => handleRecords c rs
    | .ok (.events payloads) => handleRecords (c.ingestAll payloads) rs
    | .ok (.close reason) =>
      let h := handleRecords c rs
      { h with
        notices := .hubClosed c.url reason :: h.notices
        result := h.result.map fun _ => false }

/-- **Taking in a text frame.**  The result is false once the hub has closed the
connection; the records after its message still count.
Source: `EventConnection.handle_frames`. -/
def handleFrame (c : Connection) (frame : String) : Handled := c.handleRecords (recordsOf frame)

end Connection

/-- Why a handshake fails. -/
inductive HandshakeError where
  | invalidResponse (record : String)
  | refused (reason : String)
  | unexpectedFrame (description : String)
  | beyond (limit : JsonLimit)
deriving DecidableEq, Repr

def HandshakeError.message : HandshakeError → String
  | .invalidResponse record => "invalid handshake response: " ++ Text.quoted record
  | .refused reason => reason
  | .unexpectedFrame description => "unexpected handshake frame " ++ description
  | .beyond limit => limit.message

/-- The handshake that a connection sends. -/
def handshakeText : String :=
  "\x7b\"protocol\": \"json\", \"version\": 1\x7d" ++ String.ofList [recordSeparator]

namespace Connection

/-- Checks the first record of the reply to a handshake; an empty one accepts. -/
def checkHandshake (record : String) : Except HandshakeError Unit :=
  match Json.read (if record.isEmpty then "\x7b\x7d" else record) with
  | .error .malformed => .error (.invalidResponse (String.ofList (record.toList.take 200)))
  | .error (.beyond limit) => .error (.beyond limit)
  | .ok (.obj fs) =>
    match Entries.get? fs "error" with
    | some v => if v.isTruthy then .error (.refused v.display) else .ok ()
    | none => .ok ()
  | .ok _ => .ok ()

/-- What the reply to a handshake did. -/
structure Greeted where
  connection : Connection
  notices : List Notice := []
  result : Except HandshakeError Unit

/-- **Completing a handshake.**  Records that follow the reply in its frame are
handled like those of any frame, but a close message among them is not heeded.
Source: `EventConnection.complete_handshake`. -/
def completeHandshake (c : Connection) (frame : String) : Greeted :=
  match recordsOf frame with
  | [] => { connection := c, result := .ok () }
  | first :: rest =>
    match checkHandshake first with
    | .error e => { connection := c, result := .error e }
    | .ok () =>
      let h := c.handleRecords rest
      { connection := h.connection
        notices := h.notices
        result := match h.result with
          | .ok _ => .ok ()
          | .error limit => .error (.beyond limit) }

end Connection
end Recorder
